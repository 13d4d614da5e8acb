import Scaffold.Proofs.Text.Parts
import Scaffold.Settings.Basic

/-! Lists of models. Such a list splits at its commas and nowhere else: lists with commas between them are
one with the entries of all, and entries stay what they are in whatever white space they stand, with
whatever blank entries among them. -/

namespace Scaffold.ModelList
open Text

theorem modelList_eq_iff {list : String} {entries : List String} :
    modelList list = entries ↔ parts trim list.toList = entries.map String.toList := by
  unfold modelList
  constructor
  · rintro rfl
    simp [Function.comp_def]
  · intro h
    rw [h]
    simp

theorem modelList_append (a b : String) : modelList (a ++ "," ++ b) = modelList a ++ modelList b := by
  have htext : (a ++ "," ++ b).toList = a.toList ++ ',' :: b.toList := by simp
  unfold modelList
  rw [htext, parts_append, List.map_append]

theorem isPart_of_mem_modelList {list entry : String} (h : entry ∈ modelList list) :
    IsPart entry.toList := by
  obtain ⟨part, hpart, rfl⟩ := List.mem_map.1 h
  rw [String.toList_ofList]
  exact isPart_of_mem hpart

section
variable {entries : List String} (h : ∀ entry ∈ entries, IsPart entry.toList)
include h

theorem modelList_eq_iff_spaced {list : String} : modelList list = entries ↔
    ∃ pieces, Spaced (entries.map String.toList) pieces ∧ list.toList = [','].intercalate pieces := by
  rw [modelList_eq_iff, parts_eq_iff (List.forall_mem_map.2 h)]

theorem modelList_intercalate : modelList (",".intercalate entries) = entries :=
  (modelList_eq_iff_spaced h).2 ⟨_, spaced_self _, String.toList_intercalate⟩

end

/-- Two lists with a comma between them have the entries of both. An entry is not empty, holds no comma
and has no white space at its ends. A text has given entries exactly if it is these with commas between
them, perhaps with white space around each, and blank pieces anywhere; so the entries of a list, joined
again, are read as they are. -/
theorem lists_split_and_join :
    (∀ a b, modelList (a ++ "," ++ b) = modelList a ++ modelList b) ∧
    (∀ list, ∀ entry ∈ modelList list, IsPart entry.toList) ∧
    (∀ entries : List String, (∀ entry ∈ entries, IsPart entry.toList) →
      ∀ list, modelList list = entries ↔ ∃ pieces,
        Spaced (entries.map String.toList) pieces ∧ list.toList = [','].intercalate pieces) ∧
    ∀ list, modelList (",".intercalate (modelList list)) = modelList list := by
  refine ⟨modelList_append, fun list entry => isPart_of_mem_modelList, fun entries hentries list => ?_,
    fun list => ?_⟩
  · exact modelList_eq_iff_spaced hentries
  · exact modelList_intercalate fun entry => isPart_of_mem_modelList

/-- White space within an entry stays, and all white space around entries goes, also the wide one. -/
theorem lists_split_and_join_padded :
    (∀ entry ∈ ["Line item", "User"], IsPart entry.toList) ∧
    modelList "\u3000Line item\t, ,\nUser," = ["Line item", "User"] ∧ IsPart "User".toList := by
  have hentries : ∀ entry ∈ ["Line item", "User"], IsPart entry.toList :=
    List.forall_mem_cons.2 ⟨by decide +kernel, List.forall_mem_singleton.2 (by decide +kernel)⟩
  have hwide : ∀ c ∈ ['\u3000'], isBlank c = true := List.forall_mem_singleton.2 (by decide)
  have htab : ∀ c ∈ ['\t'], isBlank c = true := List.forall_mem_singleton.2 (by decide)
  have hspace : ∀ c ∈ [' '], isBlank c = true := List.forall_mem_singleton.2 (by decide)
  have hfeed : ∀ c ∈ ['\n'], isBlank c = true := List.forall_mem_singleton.2 (by decide)
  have hspaced : Spaced (["Line item", "User"].map String.toList)
      ["\u3000Line item\t".toList, [' '], "\nUser".toList, []] :=
    .part ['\u3000'] "Line item".toList ['\t'] hwide htab <| .blank hspace <|
      .part ['\n'] "User".toList [] hfeed nofun <| .blank nofun .nil
  obtain ⟨-, hentry, hjoined, -⟩ := lists_split_and_join
  have hlist : modelList "\u3000Line item\t, ,\nUser," = ["Line item", "User"] :=
    (hjoined _ hentries _).2 ⟨_, hspaced, by decide +kernel⟩
  have hmem : "User" ∈ modelList "\u3000Line item\t, ,\nUser," := by
    rw [hlist]
    decide
  exact ⟨hentries, hlist, hentry _ "User" hmem⟩

end Scaffold.ModelList
