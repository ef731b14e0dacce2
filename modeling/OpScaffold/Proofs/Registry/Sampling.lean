import Mathlib.Control.Monad.Basic
import OpScaffold.Proofs.Registry.Validation
import OpScaffold.Proofs.Template.Likeness
import OpScaffold.Proofs.Variant

/-!
# OpScaffold.Proofs.Registry.Sampling

What the sample tells about the variants to come. The template of an entry that is accepted can be
rendered for every variant that has a name as long as the sample's, unless fields stand in its
directives; for other names and templates it can be rendered just where no field falls short
(`validate_samples`). An entry whose template cannot be rendered for the sample is not always
rejected by the registry: where the template misuses a value, that error ends the check
(`misuse_ends_check`).
-/

namespace OpScaffold

open Template

variable {entries : List Entry} {e : Entry} {name : Text} {v : Variant}

/-- The lines of an entry can be rendered if its template can. -/
theorem Entry.exists_render_iff :
    (∃ snippet, e.render v = .ok snippet) ↔ ∃ t, Template.render e.template v = .ok t := by
  unfold Entry.render
  cases Template.render e.template v with
  | error error => exact iff_of_false nofun nofun
  | ok t => exact iff_of_true ⟨_, rfl⟩ ⟨t, rfl⟩

/-- Both spellings of a variant are of one length. -/
theorem Variant.length_upper_of_derive (h : derive name = .ok v) :
    v.upper.length = v.name.length := by
  obtain ⟨hname, rfl⟩ := derive_eq_ok h
  rw [upper_eq_map hname, List.length_map]

namespace Registry

/-- What is rendered for the sample is rendered for a variant just where no field falls short. -/
theorem Sound.exists_render_iff (h : Sound e) (hv : Variant.derive name = .ok v) :
    (∃ snippet, e.render v = .ok snippet) ↔
      ∀ f ∈ fields e.template, ¬ f.FallsShort sample v := by
  obtain ⟨t, ht⟩ := Entry.exists_render_iff.1 h.template
  rw [Entry.exists_render_iff]
  exact Template.exists_render_iff rfl (Variant.length_upper_of_derive hv) ht

/-- No plain field falls short of a name that is not shorter than the sample's. -/
theorem Sound.exists_render (h : Sound e) (hv : Variant.derive name = .ok v)
    (hlength : sample.name.length ≤ v.name.length)
    (hplain : ∀ f ∈ fields e.template, f.nested = false) : ∃ snippet, e.render v = .ok snippet := by
  refine (h.exists_render_iff hv).2 fun f hf hshort => ?_
  rcases hshort.cases with hlt | hnested
  · omega
  · rw [hplain f hf] at hnested
    cases hnested

/-- **The sample.** Let all patterns of a registry be readable. If the registry is accepted, then an
entry can be rendered for a variant just where no field of its template falls short; so it can be
if the name is as long as the sample's and no directive has fields in it. If the registry is
rejected, that is a fault of the registry, or the template of an entry behind sound ones misuses a
value of the sample. -/
theorem validate_samples
    (hpattern : ∀ e ∈ entries, ∀ t ∈ e.blockEnd, ∃ pattern, Pattern.ofText t = .ok pattern) :
    (validate entries = .ok () → ∀ e ∈ entries, ∀ name v, Variant.derive name = .ok v →
      ((∃ snippet, e.render v = .ok snippet) ↔
        ∀ f ∈ fields e.template, ¬ f.FallsShort sample v) ∧
      (sample.name.length ≤ v.name.length → (∀ f ∈ fields e.template, f.nested = false) →
        ∃ snippet, e.render v = .ok snippet)) ∧
    ∀ failure, validate entries = .error failure → (∃ fault, failure = .registry fault) ∨
      ∃ front e back error, entries = front ++ e :: back ∧ (∀ e' ∈ front, Sound e') ∧
        Misuses e error ∧ failure = .template error := by
  refine ⟨fun h e he name v hv => ?_, fun failure h => cases_of_validate_eq_error hpattern h⟩
  have hsound := sound_of_validate h he
  exact ⟨hsound.exists_render_iff hv, hsound.exists_render hv⟩

/-- An entry that is accepted with the fifth letter of the name, which three letters do not have. -/
theorem validate_samples_fifth_letter :
    let e : Entry := { path := "a.rs".toList, anchor := "// list".toList,
                       template := "\x7bname[4]\x7d;".toList, blockEnd := some "//".toList }
    let cos : Variant := ⟨"cos".toList, "COS".toList⟩
    let arctan : Variant := ⟨"arctan".toList, "ARCTAN".toList⟩
    validate [e] = .ok () ∧ (∃ snippet, e.render arctan = .ok snippet) ∧
      e.render cos = .error (.indexOutOfRange .text) ∧
      ∃ f ∈ fields e.template, f.FallsShort sample cos := by
  intro e cos arctan
  have hpattern : ∀ e' ∈ [e], ∀ t ∈ e'.blockEnd, ∃ pattern, Pattern.ofText t = .ok pattern := by
    intro e' he' t ht
    cases List.mem_singleton.1 he'
    cases ht
    exact ⟨_, rfl⟩
  have hvalid : validate [e] = .ok () := by decide +kernel
  have hcos : Variant.derive "cos".toList = .ok cos := by decide +kernel
  have harctan : Variant.derive "arctan".toList = .ok arctan := by decide +kernel
  have hrun : e.render cos = .error (.indexOutOfRange .text) := by decide +kernel
  have hsamples := (validate_samples hpattern).1 hvalid e (List.mem_singleton_self e)
  refine ⟨hvalid, (hsamples _ _ harctan).2 (by decide) (by decide +kernel), hrun, ?_⟩
  have hnot := mt (hsamples _ _ hcos).1.2 fun ⟨snippet, hok⟩ => by
    rw [hrun] at hok
    cases hok
  simpa using hnot

/-- A template that asks a text for its width can be rendered for no variant; the sample has no
width either, and this is not reported as a fault of the registry. -/
theorem misuse_ends_check :
    let e : Entry := { path := "a.rs".toList, anchor := "// a".toList,
                       template := "\x7bname.width\x7d".toList }
    let error : Template.Error := .unknownMember "str".toList "width".toList
    let cos : Variant := ⟨"cos".toList, "COS".toList⟩
    Variant.derive "cos".toList = .ok cos ∧ e.blockEnd = none ∧ e.render cos = .error error ∧
      validate [e] = .error (.template error) ∧
      ¬ ∃ fault, validate [e] = .error (.registry fault) := by
  intro e error cos
  have hvalidate : validate [e] = .error (.template error) := by decide +kernel
  refine ⟨by decide +kernel, rfl, by decide +kernel, hvalidate, ?_⟩
  rintro ⟨fault, hfault⟩
  rw [hvalidate] at hfault
  cases hfault

end Registry

end OpScaffold
