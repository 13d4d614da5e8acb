import Scaffold.Logging.Settings
import Scaffold.Proofs.Logging.Filter
import Scaffold.Proofs.Outcome
import Scaffold.Proofs.Text.Words

/-! Where the directives of the filter come from, and in which order: from `RUST_LOG` or the level, then
the one for the file watcher, then from the list of targets. The last one for a target decides, in every
language that is read so. Parts of the list that are no directive count for nothing. -/

namespace Scaffold.LogSettings
open Text

/-! ## Where a filter starts -/

/-- The text is the name of the level, in any case of letters. -/
def Names (text : String) (level : Level) : Prop :=
  lowercase text.toList = level.name.toList.map Char.toLower

/-- The text means the level that it names, or `INFO` if it names none. -/
def Means (text : String) (level : Level) : Prop :=
  Names text level ∨ (level = .info ∧ ∀ other, ¬ Names text other)

theorem means_level (s : LogSettings) : Means s.levelText s.level := by
  unfold Means Names level
  have htext : ∀ {name : String}, String.ofList (lowercase s.levelText.toList) = name →
      lowercase s.levelText.toList = name.toList := by
    rintro name rfl
    rw [String.toList_ofList]
  split
  · rename_i h
    exact .inl (htext h)
  · rename_i h
    exact .inl (htext h)
  · rename_i h
    exact .inl (htext h)
  · rename_i h
    exact .inl (htext h)
  · rename_i htrace hdebug hwarn herror
    by_cases hinfo : lowercase s.levelText.toList = Level.info.name.toList.map Char.toLower
    · exact .inl hinfo
    · refine .inr ⟨rfl, fun other hother => ?_⟩
      have hofList := congrArg String.ofList hother
      cases other with
      | error => exact herror hofList
      | warn => exact hwarn hofList
      | info => exact hinfo hother
      | debug => exact hdebug hofList
      | trace => exact htrace hofList

/-- The parts of a comma-separated list as they stand, without the empty ones. -/
def rawParts (list : String) : List (List Char) := (list.toList.splitOn ',').filter (!·.isEmpty)

section
variable {Directive Filter Key : Type} (lang : FilterLanguage Directive Filter)
  (reading : FilterReading Directive Filter Key)

/-- What a filter starts from: the directives of `RUST_LOG` if it is set and each of its parts is one,
and the level otherwise. -/
inductive StartsFrom (s : LogSettings) (override : Option String) : List Directive → Prop
  | override {list : String} {ds : List Directive} : override = some list →
      (rawParts list).map lang.parse? = ds.map some → StartsFrom s override ds
  | level {level : Level} {d : Directive} :
      (∀ list ∈ override, ∃ part ∈ rawParts list, lang.parse? part = none) → Means s.levelText level →
      lang.parse? level.name.toList = some d → reading.key d = reading.plainKey none →
      reading.threshold d = some level → StartsFrom s override [d]

theorem directives?_eq (list : String) : directives? lang list = (rawParts list).mapM lang.parse? := by
  simp [directives?, parts, rawParts]

variable [DecidableEq Key]

theorem exists_startsFrom_base {reading : FilterReading Directive Filter Key}
    (h : reading.Describes lang) (s : LogSettings) (override : Option String) :
    ∃ start, StartsFrom lang reading s override start ∧
      s.base lang override = lang.ofDirectives start := by
  unfold base
  cases hds : override.bind (directives? lang) with
  | some ds =>
    obtain ⟨list, hlist, hparts⟩ := Option.bind_eq_some_iff.1 hds
    rw [directives?_eq, mapM_eq_some_iff] at hparts
    exact ⟨ds, .override hlist hparts, rfl⟩
  | none =>
    obtain ⟨d, hparse, hkey, hthreshold⟩ := h.level s.level
    refine ⟨[d], .level (fun list hlist => ?_) s.means_level hparse hkey hthreshold, ?_⟩
    · rw [Option.bind_eq_none_iff] at hds
      exact exists_of_mapM_eq_none (directives?_eq lang list ▸ hds list hlist)
    · rw [hparse]
      rfl

/-! ## The list of targets -/

/-- The directives of a comma-separated list, white space around each looked past. -/
def directivesIn (list : String) : List Directive :=
  (((list.toList.splitOn ',').map trim).filter (!·.isEmpty)).filterMap lang.parse?

theorem directivesIn_append (x y : String) :
    directivesIn lang (x ++ "," ++ y) = directivesIn lang x ++ directivesIn lang y := by
  have htext : (x ++ "," ++ y).toList = x.toList ++ ',' :: y.toList := by simp
  unfold directivesIn
  rw [htext, List.splitOn_append_cons_self, List.map_append, List.filter_append, List.filterMap_append]

/-- The part of a list counts: it is not blank, and a directive when it is trimmed. -/
def isDirective (part : List Char) : Bool := !(trim part).isEmpty && (lang.parse? (trim part)).isSome

/-- The list without the parts that are blank or no directive. -/
def withoutIdle (list : String) : String :=
  String.ofList ([','].intercalate ((list.toList.splitOn ',').filter (isDirective lang)))

theorem filterMap_filter_isDirective (pieces : List (List Char)) :
    (((pieces.filter (isDirective lang)).map trim).filter (!·.isEmpty)).filterMap lang.parse? =
      ((pieces.map trim).filter (!·.isEmpty)).filterMap lang.parse? := by
  rw [List.filterMap_filter, List.filterMap_filter, List.filterMap_map, List.filterMap_map,
    List.filterMap_filter]
  refine List.filterMap_congr fun part _ => ?_
  unfold isDirective
  cases hpart : lang.parse? (trim part) <;> simp [hpart]

theorem directivesIn_withoutIdle (list : String) :
    directivesIn lang (withoutIdle lang list) = directivesIn lang list := by
  unfold directivesIn withoutIdle
  rw [String.toList_ofList, ← filterMap_filter_isDirective lang (list.toList.splitOn ',')]
  by_cases hnone : (list.toList.splitOn ',').filter (isDirective lang) = []
  · rw [hnone]
    rfl
  · rw [List.splitOn_intercalate ',' (fun part hpart => ?_) hnone]
    exact (of_mem_splitOn (List.mem_filter.1 hpart).1).2

/-! ## The filter -/

theorem filterIn_eq {watcher : Directive} (hwatcher : lang.parse? "notify=warn".toList = some watcher)
    (s : LogSettings) (override : Option String) : s.filterIn lang override =
      ([watcher] ++ directivesIn lang (s.targetFilter.getD "")).foldl lang.add (s.base lang override) := by
  unfold filterIn watcherDirective?
  rw [hwatcher]
  rfl

/-- The last directive for a key decides. The directives come from `RUST_LOG` if it is set and all of it
can be read, and otherwise from the level; then comes the one for the file watcher; then those of the
list of targets, in which a part that is blank or no directive counts for nothing, so that the list can
be had without it. A list that goes on adds its directives to the filter. -/
theorem last_directive_wins {reading : FilterReading Directive Filter Key}
    (h : reading.Describes lang) (s : LogSettings) (override : Option String) :
    (∃ start watcher, StartsFrom lang reading s override start ∧
      lang.parse? "notify=warn".toList = some watcher ∧
      reading.key watcher = reading.plainKey (some "notify") ∧ reading.threshold watcher = some .warn ∧
      ∀ key, reading.threshold? (s.filterIn lang override) key = reading.lastThreshold?
        (start ++ [watcher] ++ directivesIn lang (s.targetFilter.getD "")) key) ∧
    (∀ list, ({ s with targetFilter := some (withoutIdle lang list) } : LogSettings).filterIn lang override =
      ({ s with targetFilter := some list } : LogSettings).filterIn lang override) ∧
    ∀ x y, ({ s with targetFilter := some (x ++ "," ++ y) } : LogSettings).filterIn lang override =
      (directivesIn lang y).foldl lang.add
        (({ s with targetFilter := some x } : LogSettings).filterIn lang override) := by
  obtain ⟨start, hstart, hbase⟩ := exists_startsFrom_base lang h s override
  obtain ⟨watcher, hwatcher, hkey, hthreshold⟩ := h.watcher
  refine ⟨⟨start, watcher, hstart, hwatcher, hkey, hthreshold, fun key => ?_⟩, fun list => ?_, fun x y => ?_⟩
  · rw [filterIn_eq lang hwatcher, hbase, List.append_assoc]
    exact h.threshold?_foldl_add (h.threshold?_ofDirectives start) _ key
  · rw [filterIn_eq lang hwatcher, filterIn_eq lang hwatcher, Option.getD_some, Option.getD_some,
      directivesIn_withoutIdle]
    rfl
  · rw [filterIn_eq lang hwatcher, filterIn_eq lang hwatcher, Option.getD_some, Option.getD_some,
      directivesIn_append, ← List.append_assoc]
    exact List.foldl_append ..

end

theorem threshold?_filter (s : LogSettings) (override target : Option String) :
    (s.filter override).threshold? target =
      LogFilter.plainReading.threshold? (s.filterIn LogFilter.plain override) target := rfl

/-- A part of `RUST_LOG` that is no directive leaves the level in force; of the directives for one target
the last decides, also for the file watcher. -/
theorem last_directive_wins_plain :
    let s : LogSettings := { targetFilter := some "notify=off, ,a=loud,a=debug,a=error" }
    let f := s.filter (some "a=trace,=")
    LogFilter.plainReading.Describes LogFilter.plain ∧ f.threshold? (some "notify") = some none ∧
      f.threshold? (some "a") = some (some .error) ∧ f.threshold? none = some (some .info) ∧
      f.print = "notify=off,a=error,info" := by
  intro s f
  obtain ⟨⟨start, watcher, hstart, hwatcher, -, -, hlast⟩, -⟩ :=
    last_directive_wins LogFilter.plain LogFilter.describes_plain s (some "a=trace,=")
  have hbase : start = [⟨none, some .info⟩] := by
    cases hstart with
    | override hlist hparts =>
      obtain rfl := Option.some_inj.1 hlist
      have hnone : none ∈ (rawParts "a=trace,=").map LogFilter.plain.parse? := by decide +kernel
      simp [hparts] at hnone
    | @level level d _ hmeans _ hkey hthreshold =>
      have hinfo : level = .info := by
        rcases hmeans with hnames | ⟨hinfo, -⟩
        · revert hnames
          unfold Names
          cases level <;> decide +kernel
        · exact hinfo
      subst hinfo
      exact congrArg ([·]) (congrArg₂ Directive.mk hkey hthreshold)
  have hwarn : LogFilter.plain.parse? "notify=warn".toList = some ⟨some "notify", some .warn⟩ := by
    decide +kernel
  have hlist : directivesIn LogFilter.plain (s.targetFilter.getD "") =
      [⟨some "notify", none⟩, ⟨some "a", some .debug⟩, ⟨some "a", some .error⟩] := by decide +kernel
  obtain rfl := Option.some_inj.1 (hwatcher.symm.trans hwarn)
  rw [hbase, hlist] at hlast
  have hfilter : ∀ target, f.threshold? target = LogFilter.plainReading.lastThreshold?
      [⟨none, some .info⟩, ⟨some "notify", some .warn⟩, ⟨some "notify", none⟩, ⟨some "a", some .debug⟩,
        ⟨some "a", some .error⟩] target :=
    fun target => (threshold?_filter s _ target).trans (hlast target)
  exact ⟨LogFilter.describes_plain, (hfilter (some "notify")).trans (by decide +kernel),
    (hfilter (some "a")).trans (by decide +kernel), (hfilter none).trans (by decide +kernel), by decide +kernel⟩

/-- The plain filter in force lets an event pass if the longest target for its source says so. -/
theorem admits_filter_iff (s : LogSettings) (override : Option String) (level : Level) (source : String) :
    (s.filter override).admits level source = true ↔ ∃ target threshold,
      (s.filter override).IsDeciding source target ∧
        (s.filter override).threshold? target = some threshold ∧ level.rank ≤ Threshold.rank threshold := by
  have hordered : (s.filter override).IsOrdered := by
    obtain ⟨start, -, hbase⟩ := exists_startsFrom_base LogFilter.plain LogFilter.describes_plain s override
    obtain ⟨watcher, hwatcher, -⟩ := LogFilter.describes_plain.watcher
    rw [filter, filterIn_eq LogFilter.plain hwatcher, hbase]
    exact LogFilter.isOrdered_foldl (LogFilter.isOrdered_ofDirectives start) _
  exact hordered.admits_iff level source

end Scaffold.LogSettings
