import Scaffold.FileTree
import Scaffold.Proofs.Watch.Histories

/-! No change is lost: an event sent after the schema was last read is still in the channel, or has
requested a re-scan, or a trigger was accepted that the schema is yet to be read for. Three places of
the loop take events out of the channel, so the invariant ties channel, flag and stage together. -/

namespace Scaffold.Watch

/-- An event was sent after the schema was last read. -/
def Unread (h : List Happening) : Prop :=
  ∃ before after, h = before ++ .sent :: after ∧ .did .reading ∉ after

theorem not_unread_nil : ¬ Unread [] := by
  rintro ⟨before, after, h, -⟩
  simp at h

theorem unread_snoc {h : List Happening} {e : Happening} (hu : Unread (h ++ [e])) :
    e = .sent ∨ (Unread h ∧ e ≠ .did .reading) := by
  obtain ⟨before, after, heq, hread⟩ := hu
  rcases List.eq_nil_or_concat after with rfl | ⟨after, last, rfl⟩
  · left
    simpa using (List.append_inj' heq rfl).2
  · right
    have heq : h ++ [e] = (before ++ .sent :: after) ++ [last] := by simpa using heq
    obtain ⟨rfl, he⟩ := List.append_inj' heq rfl
    obtain rfl : e = last := by simpa using he
    simp only [List.concat_eq_append, List.mem_append, List.mem_singleton, not_or] at hread
    exact ⟨⟨before, after, rfl, hread.1⟩, Ne.symm hread.2⟩

/-- What holds in every state that a history leads to. -/
structure NothingLost (h : List Happening) (loop : LoopState) (channel : Channel) : Prop where
  kept : Unread h →
    0 < channel.queued ∨ loop.queue.rescanRequested = true ∨ loop.stage.isDue = true
  unflagged : loop.stage ≠ .waiting → loop.queue.rescanRequested = false
  ended : loop.stage = .ended → channel.queued = 0 ∧ channel.isOpen = false

/-- A step of the loop keeps what holds. The events that it takes out of the channel are accounted
for by the stage that it enters or by the flag that it sets. -/
theorem nothingLost_moved {h : List Happening} {stage : Stage} {s s' : LoopState} {c c' : Channel}
    (hm : Moved s c s' c') (hs : s.stage = stage) (inv : NothingLost h s c) :
    NothingLost (h ++ [.did stage]) s' c' := by
  have earlier (hu : Unread (h ++ [.did stage])) : Unread h ∧ stage ≠ .reading := by
    rcases unread_snoc hu with he | ⟨hu, he⟩
    · cases he
    · exact ⟨hu, fun hr => he (by rw [hr])⟩
  obtain ⟨kept, unflagged, ended⟩ := inv
  cases hm with
  | rescan _ => exact ⟨fun _ => .inr (.inr rfl), fun _ => rfl, fun hend => nomatch hend⟩
  | received _ _ => exact ⟨fun _ => .inr (.inr rfl), fun _ => rfl, fun hend => nomatch hend⟩
  | ended hr hq hc =>
    refine ⟨fun hu => ?_, fun _ => hr, fun _ => ⟨hq, hc⟩⟩
    rcases kept (earlier hu).1 with hpos | hflag | hdue
    · exact .inl hpos
    · exact .inr (.inl hflag)
    · exact absurd hdue (by simp [Stage.isDue])
  | settled q n c =>
    exact ⟨fun _ => .inr (.inr rfl), fun _ => unflagged (by simp), fun hend => nomatch hend⟩
  | cleared q n c =>
    exact ⟨fun _ => .inr (.inr rfl), fun _ => unflagged (by simp), fun hend => nomatch hend⟩
  | read q n c text =>
    refine ⟨fun hu => absurd hs.symm (earlier hu).2, fun _ => unflagged (by simp), ?_⟩
    exact fun hend => nomatch hend
  | generated q n c text =>
    refine ⟨fun hu => ?_, fun _ => unflagged (by simp), fun hend => nomatch hend⟩
    rcases kept (earlier hu).1 with hpos | hflag | hdue
    · exact .inl hpos
    · exact .inr (.inl hflag)
    · exact absurd hdue (by simp [Stage.isDue])
  | finished q n c =>
    refine ⟨fun hu => ?_, fun hw => absurd rfl hw, fun hend => nomatch hend⟩
    -- the flag was down, so an unread event was in the channel and now is in the flag
    rcases kept (earlier hu).1 with hpos | hflag | hdue
    · exact .inr (.inl (by simpa using hpos))
    · rw [unflagged (by simp)] at hflag
      exact absurd hflag Bool.false_ne_true
    · exact absurd hdue (by simp [Stage.isDue])

variable {σ : Type} [Workspace (StateM σ)]

section
variable {settings : Settings} {schemaPath outDir : String}

theorem nothingLost_step {h : List Happening} {c c' : Config σ} {e : Happening}
    (hs : Step settings schemaPath outDir c e c') (inv : NothingLost h c.loop c.channel) :
    NothingLost (h ++ [e]) c'.loop c'.channel := by
  cases e with
  | sent =>
    obtain ⟨hopen, rfl⟩ := hs
    refine ⟨fun _ => .inl (by simp [Channel.send, hopen]), inv.unflagged, fun hend => ?_⟩
    exact absurd hopen (by simp [(inv.ended hend).2])
  | closed =>
    obtain rfl := hs
    refine ⟨fun hu => ?_, inv.unflagged, fun hend => ⟨(inv.ended hend).1, rfl⟩⟩
    rcases unread_snoc hu with he | ⟨hu, -⟩
    · cases he
    · exact inv.kept hu
  | edited =>
    obtain ⟨files, rfl⟩ := hs
    refine ⟨fun hu => ?_, inv.unflagged, inv.ended⟩
    rcases unread_snoc hu with he | ⟨hu, -⟩
    · cases he
    · exact inv.kept hu
  | did stage => exact nothingLost_moved (moved_of_did hs) hs.1 inv

theorem nothingLost_run {debounceMs : Nat} {h : List Happening} {c : Config σ}
    (run : Run settings schemaPath outDir debounceMs h c) : NothingLost h c.loop c.channel := by
  induction run with
  | nil files =>
    refine ⟨fun hu => absurd hu not_unread_nil, fun _ => rfl, fun hend => nomatch hend⟩
  | snoc _ hs ih => exact nothingLost_step hs ih

end

/-- No change is lost, in whatever order things happen: an event sent after the schema was last read
is in the channel, or a re-scan is pending, or an accepted trigger has yet to read the schema. So the
loop, which is its steps one after the other, ends only when every event was followed by a read. -/
theorem no_change_is_lost (settings : Settings) (schemaPath outDir : String) (debounceMs : Nat) :
    (∀ (m : Type → Type) [Monad m] [LawfulMonad m] [Workspace m] [ChangeFeed m] (rounds : Nat),
      (loop settings schemaPath outDir rounds ⟨debounceMs, false⟩ : m (Option Nat)) =
        LoopState.result? <$>
          advances settings schemaPath outDir (6 * rounds) (.start ⟨debounceMs, false⟩)) ∧
    ∀ (h : List Happening) (c : Config σ), Run settings schemaPath outDir debounceMs h c →
      (Unread h →
        0 < c.channel.queued ∨ c.loop.queue.rescanRequested = true ∨ c.loop.stage.isDue = true) ∧
      (∀ batches, c.loop.result? = some batches →
        ∀ before after, h = before ++ .sent :: after → .did .reading ∈ after) := by
  refine ⟨fun m _ _ _ _ rounds => loop_eq_advances settings schemaPath outDir rounds _, ?_⟩
  intro h c run
  have inv := nothingLost_run run
  refine ⟨inv.kept, fun batches hb before after heq => ?_⟩
  have hend : c.loop.stage = .ended := by
    unfold LoopState.result? at hb
    split at hb
    · assumption
    · cases hb
  by_cases hread : Happening.did .reading ∈ after
  · exact hread
  · rcases inv.kept ⟨before, after, heq, hread⟩ with hpos | hflag | hdue
    · exact absurd hpos (by simp [(inv.ended hend).1])
    · exact absurd hflag (by simp [inv.unflagged (by simp [hend])])
    · exact absurd hdue (by simp [hend, Stage.isDue])

/-- A save in the middle of a batch, which leaves an empty channel and a pending re-scan. -/
theorem no_change_is_lost_mid_batch :
    ∃ (h : List Happening) (c : Config FileTree),
      Run .default "" "" 0 h c ∧ Unread h ∧ c.channel.queued = 0 ∧ c.loop.stage.isDue = false ∧
        c.loop.queue.rescanRequested = true := by
  have run : Run .default "" "" 0
      [.sent, .did .waiting, .did .settling, .did .clearing, .did .reading, .sent,
        .did (.generating (.error (.schemaRead "" .notFound))), .did .finishing]
      (⟨⟨.waiting, ⟨0, true⟩, 1⟩, ⟨0, true⟩, .empty⟩ : Config FileTree) := by
    refine .snoc (.snoc (.snoc (.snoc (.snoc (.snoc (.snoc (.snoc (.nil .empty)
      (e := .sent) ⟨rfl, rfl⟩)
      (e := .did .waiting) ⟨rfl, nofun, ?_, rfl⟩)
      (e := .did .settling) ⟨rfl, nofun, nofun, rfl⟩)
      (e := .did .clearing) ⟨rfl, nofun, nofun, rfl⟩)
      (e := .did .reading) ⟨rfl, nofun, nofun, rfl⟩)
      (e := .sent) ⟨rfl, rfl⟩)
      (e := .did _) ⟨rfl, nofun, nofun, rfl⟩)
      (e := .did .finishing) ⟨rfl, nofun, nofun, rfl⟩
    simp [Config.IsBlocked, LoopState.start, Channel.send]
  have unread : Unread _ := ⟨[.sent, .did .waiting, .did .settling, .did .clearing, .did .reading],
    [.did (.generating (.error (.schemaRead "" .notFound))), .did .finishing], rfl, by simp⟩
  refine ⟨_, _, run, unread, rfl, rfl, ?_⟩
  rcases ((no_change_is_lost .default "" "" 0).2 _ _ run).1 unread with hpos | hflag | hdue
  · exact absurd hpos (by decide)
  · exact hflag
  · exact absurd hdue (by decide)

end Scaffold.Watch
