import Mathlib.Data.List.Induction
import Mathlib.Data.List.Nodup
import Scaffold.Logging.Filter

/-! The directives of a log filter. Whatever the language, a filter is read by what it lets pass for each
key, and the last directive for a key decides. A plain filter keeps one directive a target, in an order in
which the first that covers the source of an event names the longest target. -/

namespace Scaffold

/-! ## Reading a language of filters -/

/-- How the directives and filters of a language are read. A directive speaks about a key: a target,
everything, or what else the language may name. -/
structure FilterReading (Directive Filter Key : Type) where
  /-- The key of a directive that names a target and no more, or nothing. -/
  plainKey : Option String → Key
  key : Directive → Key
  threshold : Directive → Threshold
  threshold? : Filter → Key → Option Threshold

namespace FilterReading

variable {Directive Filter Key : Type} [DecidableEq Key]
  (reading : FilterReading Directive Filter Key) {lang : FilterLanguage Directive Filter}

/-- What the last of the directives for a key says. -/
def lastThreshold? (ds : List Directive) (key : Key) : Option Threshold :=
  (ds.reverse.find? (reading.key · = key)).map reading.threshold

theorem lastThreshold?_snoc (ds : List Directive) (d : Directive) (key : Key) :
    reading.lastThreshold? (ds ++ [d]) key =
      if reading.key d = key then some (reading.threshold d) else reading.lastThreshold? ds key := by
  unfold lastThreshold?
  rw [List.reverse_append, List.reverse_singleton, List.singleton_append, List.find?_cons]
  by_cases hkey : reading.key d = key <;> simp [hkey]

/-- The reading fits the language: a filter of no directives says nothing, one more directive replaces
what was said for its key and nothing else, and a level on its own and a target with its level speak
about everything and about that target. -/
structure Describes (lang : FilterLanguage Directive Filter) : Prop where
  nil (key : Key) : reading.threshold? (lang.ofDirectives []) key = none
  snoc (ds : List Directive) (d : Directive) (key : Key) :
    reading.threshold? (lang.ofDirectives (ds ++ [d])) key =
      if reading.key d = key then some (reading.threshold d)
      else reading.threshold? (lang.ofDirectives ds) key
  add (f : Filter) (d : Directive) (key : Key) :
    reading.threshold? (lang.add f d) key =
      if reading.key d = key then some (reading.threshold d) else reading.threshold? f key
  level (level : Level) : ∃ d, lang.parse? level.name.toList = some d ∧
    reading.key d = reading.plainKey none ∧ reading.threshold d = some level
  watcher : ∃ d, lang.parse? "notify=warn".toList = some d ∧
    reading.key d = reading.plainKey (some "notify") ∧ reading.threshold d = some .warn

variable {reading}

theorem Describes.threshold?_ofDirectives (h : reading.Describes lang) (ds : List Directive) (key : Key) :
    reading.threshold? (lang.ofDirectives ds) key = reading.lastThreshold? ds key := by
  induction ds using List.reverseRecOn with
  | nil => exact h.nil key
  | append_singleton ds d ih => rw [h.snoc, reading.lastThreshold?_snoc, ih]

/-- The directives that are added come after those the filter was made of. -/
theorem Describes.threshold?_foldl_add (h : reading.Describes lang) {f : Filter} {ds : List Directive}
    (hf : ∀ key, reading.threshold? f key = reading.lastThreshold? ds key) (es : List Directive) (key : Key) :
    reading.threshold? (es.foldl lang.add f) key = reading.lastThreshold? (ds ++ es) key := by
  induction es using List.reverseRecOn with
  | nil => simpa using hf key
  | append_singleton es d ih =>
    rw [List.foldl_concat, h.add, ← List.append_assoc, reading.lastThreshold?_snoc, ih]

end FilterReading

/-! ## The order of directives -/

namespace Directive

variable {a b c : Directive}

theorem comesBefore_trans (hab : a.comesBefore b = true) (hbc : b.comesBefore c = true) :
    a.comesBefore c = true := by
  obtain ⟨s, _⟩ := a
  obtain ⟨t, _⟩ := b
  obtain ⟨u, _⟩ := c
  cases s <;> cases t <;> cases u <;> simp only [comesBefore, reduceCtorEq] at hab hbc ⊢
  rename_i s t u
  split at hab <;> split at hbc <;> simp only [decide_eq_true_eq] at hab hbc
  · have hsize : s.utf8ByteSize = u.utf8ByteSize := by omega
    simpa [hsize] using String.lt_trans hbc hab
  all_goals
    have hless : u.utf8ByteSize < s.utf8ByteSize := by omega
    simpa [Nat.ne_of_gt hless] using hless

theorem target_ne_of_comesBefore (h : a.comesBefore b = true) : a.target ≠ b.target := by
  intro heq
  unfold comesBefore at h
  rw [heq] at h
  cases hb : b.target with
  | none => simp [hb] at h
  | some t =>
    simp only [hb, if_true, decide_eq_true_eq] at h
    exact String.lt_irrefl t h

theorem comesBefore_of_not (hne : a.target ≠ b.target) (h : a.comesBefore b = false) :
    b.comesBefore a = true := by
  obtain ⟨s, _⟩ := a
  obtain ⟨t, _⟩ := b
  cases s <;> cases t <;> simp only [comesBefore, reduceCtorEq] at hne h ⊢
  · exact absurd rfl hne
  · rename_i s t
    split at h <;> simp only [decide_eq_false_iff_not] at h
    · rename_i hsize
      have hless : s < t := Std.lt_of_le_of_ne (String.not_lt.1 h) fun heq => hne (by rw [heq])
      simpa [hsize] using hless
    · have hless : s.utf8ByteSize < t.utf8ByteSize := by omega
      simpa [Nat.ne_of_gt hless] using hless

end Directive

namespace LogFilter

/-- The directives stand in their order, which is strict, so no target has two. -/
def IsOrdered (f : LogFilter) : Prop := f.directives.Pairwise (·.comesBefore · = true)

theorem mem_insertDirective {d e : Directive} {ds : List Directive} :
    e ∈ insertDirective d ds ↔ e = d ∨ e ∈ ds := by
  induction ds with
  | nil => simp [insertDirective]
  | cons first ds ih =>
    unfold insertDirective
    split
    · exact List.mem_cons
    · rw [List.mem_cons, List.mem_cons, ih]
      exact or_left_comm

theorem pairwise_insertDirective {d : Directive} {ds : List Directive}
    (hne : ∀ e ∈ ds, e.target ≠ d.target) (h : ds.Pairwise (·.comesBefore · = true)) :
    (insertDirective d ds).Pairwise (·.comesBefore · = true) := by
  induction ds with
  | nil => exact List.pairwise_singleton _ _
  | cons first ds ih =>
    obtain ⟨hfirst, hds⟩ := List.pairwise_cons.1 h
    unfold insertDirective
    split
    · rename_i hbefore
      refine List.pairwise_cons.2 ⟨List.forall_mem_cons.2 ⟨hbefore, fun e he => ?_⟩, h⟩
      exact Directive.comesBefore_trans hbefore (hfirst e he)
    · rename_i hbefore
      have hafter : first.comesBefore d = true :=
        Directive.comesBefore_of_not (hne first (by simp)).symm (Bool.eq_false_iff.2 hbefore)
      refine List.pairwise_cons.2 ⟨fun e he => ?_, ih (fun e he => hne e (by simp [he])) hds⟩
      rcases mem_insertDirective.1 he with rfl | he
      · exact hafter
      · exact hfirst e he

theorem IsOrdered.add {f : LogFilter} (h : f.IsOrdered) (d : Directive) : (f.add d).IsOrdered := by
  refine pairwise_insertDirective (fun e he => ?_) (h.filter _)
  simpa using (List.mem_filter.1 he).2

theorem isOrdered_foldl {f : LogFilter} (h : f.IsOrdered) (ds : List Directive) :
    (ds.foldl add f).IsOrdered := by
  induction ds generalizing f with
  | nil => exact h
  | cons d ds ih => exact ih (h.add d)

theorem isOrdered_ofDirectives (ds : List Directive) : (ofDirectives ds).IsOrdered :=
  isOrdered_foldl (f := empty) List.Pairwise.nil ds

theorem IsOrdered.eq_of_mem {f : LogFilter} (h : f.IsOrdered) {d e : Directive}
    (hd : d ∈ f.directives) (he : e ∈ f.directives) (heq : d.target = e.target) : d = e := by
  have hnodup : (f.directives.map (·.target)).Nodup :=
    List.pairwise_map.2 (h.imp Directive.target_ne_of_comesBefore)
  exact List.inj_on_of_nodup_map hnodup hd he heq

/-! ## What a filter says about a target -/

/-- What the filter lets pass for a target that it names. -/
def threshold? (f : LogFilter) (target : Option String) : Option Threshold :=
  (f.directives.find? (·.target = target)).map (·.threshold)

theorem IsOrdered.threshold?_eq_some_iff {f : LogFilter} (h : f.IsOrdered) {target : Option String}
    {threshold : Threshold} :
    f.threshold? target = some threshold ↔ ⟨target, threshold⟩ ∈ f.directives := by
  unfold threshold?
  rw [Option.map_eq_some_iff]
  constructor
  · rintro ⟨d, hd, rfl⟩
    obtain rfl : d.target = target := by simpa using List.find?_some hd
    exact List.mem_of_find?_eq_some hd
  · intro hmem
    have hsome : (f.directives.find? (·.target = target)).isSome = true :=
      List.find?_isSome.2 ⟨_, hmem, decide_eq_true rfl⟩
    obtain ⟨d, hd⟩ := Option.isSome_iff_exists.1 hsome
    have hsame : d = ⟨target, threshold⟩ :=
      h.eq_of_mem (List.mem_of_find?_eq_some hd) hmem (by simpa using List.find?_some hd)
    exact ⟨d, hd, by rw [hsame]⟩

theorem find?_insertDirective_of_false {p : Directive → Bool} {d : Directive} (hd : p d = false)
    (ds : List Directive) : (insertDirective d ds).find? p = ds.find? p := by
  induction ds with
  | nil => simp [insertDirective, hd]
  | cons e ds ih =>
    unfold insertDirective
    split
    · rw [List.find?_cons_of_neg (by simp [hd])]
    · rw [List.find?_cons, List.find?_cons, ih]

theorem find?_insertDirective_of_true {p : Directive → Bool} {d : Directive} (hd : p d = true)
    {ds : List Directive} (hds : ∀ e ∈ ds, p e = false) : (insertDirective d ds).find? p = some d := by
  induction ds with
  | nil => simp [insertDirective, hd]
  | cons e ds ih =>
    unfold insertDirective
    split
    · exact List.find?_cons_of_pos hd
    · rw [List.find?_cons_of_neg (by simp [hds e]), ih fun e' he' => hds e' (by simp [he'])]

theorem threshold?_add (f : LogFilter) (d : Directive) (target : Option String) :
    (f.add d).threshold? target = if d.target = target then some d.threshold else f.threshold? target := by
  unfold threshold? add
  split
  · rename_i htarget
    subst htarget
    rw [find?_insertDirective_of_true (by simp) (fun e he => ?_), Option.map_some]
    simpa using (List.mem_filter.1 he).2
  · rename_i htarget
    rw [find?_insertDirective_of_false (by simpa using htarget), List.find?_filter]
    congr 2
    funext e
    -- a directive for this target is not taken out
    by_cases he : e.target = target
    · simp [he, Ne.symm htarget]
    · simp [he]

/-- A plain directive speaks about the target it names, or about everything. -/
def plainReading : FilterReading Directive LogFilter (Option String) :=
  ⟨id, (·.target), (·.threshold), threshold?⟩

theorem describes_plain : plainReading.Describes plain where
  nil _ := rfl
  snoc ds d target := by
    have hadd : ofDirectives (ds ++ [d]) = (ofDirectives ds).add d := List.foldl_concat ..
    exact (congrArg (threshold? · target) hadd).trans (threshold?_add _ d target)
  add := threshold?_add
  level level := ⟨⟨none, some level⟩, by cases level <;> decide +kernel, rfl, rfl⟩
  watcher := ⟨⟨some "notify", some .warn⟩, by decide +kernel, rfl, rfl⟩

/-! ## What a filter says about an event -/

/-- The target speaks about events of this source: it is the beginning of the source's name, or no
target at all. -/
def Covers (target : Option String) (source : String) : Prop :=
  ∀ t ∈ target, t.toList <+: source.toList

theorem covers_iff {d : Directive} {source : String} :
    d.covers source = true ↔ Covers d.target source := by
  unfold Directive.covers Covers
  cases d.target with
  | none => simp
  | some t => simp [String.startsWith_string_iff]

/-- The second target is the beginning of the first one. -/
def IsLonger (target other : Option String) : Prop :=
  ∀ o ∈ other, ∃ t ∈ target, o.toList <+: t.toList

/-- Of two targets for one source the one that comes first is the longer one. -/
theorem isLonger_of_comesBefore {d e : Directive} {source : String}
    (hd : Covers d.target source) (he : Covers e.target source) (h : d.comesBefore e = true) :
    IsLonger d.target e.target := by
  intro o ho
  unfold Directive.comesBefore at h
  cases ht : d.target with
  | none => simp [ht] at h
  | some t =>
    refine ⟨t, rfl, ?_⟩
    rcases List.prefix_or_prefix_of_prefix (he o ho) (hd t ht) with hprefix | ⟨rest, hrest⟩
    · exact hprefix
    · -- a beginning that is no shorter is the whole
      have ho' : o = t ++ String.ofList rest := by
        rw [← String.toList_inj, String.toList_append, String.toList_ofList, hrest]
      have hsize : o.utf8ByteSize = t.utf8ByteSize + (String.ofList rest).utf8ByteSize := by
        rw [ho', String.utf8ByteSize_append]
      have hempty : String.ofList rest = "" := by
        rw [← String.utf8ByteSize_eq_zero_iff]
        simp only [ht, Option.mem_def.1 ho] at h
        split at h
        · omega
        · have hless := of_decide_eq_true h
          omega
      have hsame : o = t := by rw [ho', hempty, String.append_empty]
      subst hsame
      exact List.prefix_rfl

/-- The target that decides about events of this source: the longest that the filter names. -/
def IsDeciding (f : LogFilter) (source : String) (target : Option String) : Prop :=
  Covers target source ∧
    ∀ other, (f.threshold? other).isSome = true → Covers other source → IsLonger target other

theorem isLonger_refl (target : Option String) : IsLonger target target :=
  fun t ht => ⟨t, ht, List.prefix_rfl⟩

theorem isLonger_antisymm {s t : Option String} (hst : IsLonger s t) (hts : IsLonger t s) : s = t := by
  cases s with
  | none =>
    cases t with
    | none => rfl
    | some o => obtain ⟨_, h, -⟩ := hst o rfl; cases h
  | some o =>
    obtain ⟨p, hp, hfront⟩ := hts o rfl
    obtain ⟨q, hq, hback⟩ := hst p hp
    obtain rfl : o = q := Option.some_inj.1 hq
    rw [Option.mem_def.1 hp, String.toList_inj.1 (hfront.eq_of_length_le hback.length_le)]

/-- The first directive in the order that covers a source has the deciding target. -/
theorem IsOrdered.admits_iff {f : LogFilter} (h : f.IsOrdered) (level : Level) (source : String) :
    f.admits level source = true ↔ ∃ target threshold,
      f.IsDeciding source target ∧ f.threshold? target = some threshold ∧
        level.rank ≤ Threshold.rank threshold := by
  have hfound : ∀ {d : Directive}, f.directives.find? (·.covers source) = some d →
      f.IsDeciding source d.target := by
    intro d hd
    obtain ⟨hcovers, front, back, hsplit, hfront⟩ := List.find?_eq_some_iff_append.1 hd
    refine ⟨covers_iff.1 hcovers, fun other hother hsource => ?_⟩
    obtain ⟨threshold, hthreshold⟩ := Option.isSome_iff_exists.1 hother
    have hmem := h.threshold?_eq_some_iff.1 hthreshold
    have hsorted := h
    unfold IsOrdered at hsorted
    rw [hsplit] at hmem hsorted
    rcases List.mem_append.1 hmem with hmem | hmem
    · have hnot := hfront _ hmem
      rw [covers_iff.2 hsource] at hnot
      cases hnot
    · rcases List.mem_cons.1 hmem with rfl | hmem
      · exact isLonger_refl _
      · have hbefore := (List.pairwise_cons.1 (List.pairwise_append.1 hsorted).2.1).1 _ hmem
        exact isLonger_of_comesBefore (covers_iff.1 hcovers) hsource hbefore
  unfold admits
  constructor
  · intro hadmits
    split at hadmits
    · rename_i d hd
      exact ⟨d.target, d.threshold, hfound hd,
        h.threshold?_eq_some_iff.2 (List.mem_of_find?_eq_some hd), of_decide_eq_true hadmits⟩
    · cases hadmits
  · rintro ⟨target, threshold, ⟨hcovers, hlongest⟩, hthreshold, hrank⟩
    have hmem := h.threshold?_eq_some_iff.1 hthreshold
    have hsome : (f.directives.find? (·.covers source)).isSome = true :=
      List.find?_isSome.2 ⟨_, hmem, covers_iff.2 hcovers⟩
    obtain ⟨d, hd⟩ := Option.isSome_iff_exists.1 hsome
    have hdmem := List.mem_of_find?_eq_some hd
    have hdeciding := hfound hd
    have hsame : d.target = target := by
      refine isLonger_antisymm (hdeciding.2 target (by rw [hthreshold]; rfl) hcovers) ?_
      exact hlongest d.target (by rw [h.threshold?_eq_some_iff.2 hdmem]; rfl) hdeciding.1
    obtain rfl := h.eq_of_mem hdmem hmem hsame
    rw [hd]
    exact decide_eq_true hrank

end LogFilter

end Scaffold
