import Mathlib.Logic.Function.Basic
import OpScaffold.Files.Tree

/-!
# OpScaffold.Proofs.Files.View

A tree of files under two questions: which bytes the file at a location holds (`file?`), and
whether a directory stands there (`HasDirectory`). Together they tell what stands anywhere
(`node?_eq_of_views`). A tree is well-formed (`WF`) if every node lies in a directory; putting
nodes into directories and taking files away keep it so (`WF.put`, `WF.erase`).
-/

namespace OpScaffold.FileTree

variable {t t' : FileTree} {l m : Location}

/-- The bytes of the file at a location, if a file stands there. -/
def file? (t : FileTree) (l : Location) : Option Bytes :=
  match t.node? l with
  | some (.file bytes) => some bytes
  | _ => none

/-- Whether a directory stands at a location. -/
def HasDirectory (t : FileTree) (l : Location) : Prop := t.node? l = some .directory

/-- Every node lies in a directory. -/
def WF (t : FileTree) : Prop := ∀ l name, t.node? (l ++ [name]) ≠ none → t.HasDirectory l

instance (t : FileTree) (l : Location) : Decidable (t.HasDirectory l) :=
  inferInstanceAs (Decidable (_ = _))

/-- A tree is well-formed if all nodes of its list lie in directories. -/
theorem wf_of_nodes (h : ∀ e ∈ t.nodes, t.HasDirectory e.1.dropLast) : t.WF := by
  intro l name hn
  obtain ⟨n, hn⟩ := Option.ne_none_iff_exists'.1 hn
  rw [node?, if_neg (by simp)] at hn
  obtain ⟨before, after, heq, -⟩ := List.lookup_eq_some_iff.1 hn
  have hm : (l ++ [name], n) ∈ t.nodes := by simp [heq]
  simpa using h _ hm

theorem file?_eq_some {bytes : Bytes} :
    t.file? l = some bytes ↔ t.node? l = some (.file bytes) := by
  unfold file?
  split <;> simp_all

theorem file?_of_hasDirectory (h : t.HasDirectory l) : t.file? l = none := by
  rw [file?, h]

theorem not_hasDirectory_of_isSome (h : (t.file? l).isSome) : ¬ t.HasDirectory l := by
  intro hd
  rw [file?_of_hasDirectory hd] at h
  cases h

/-- Where neither a file nor a directory stands there is nothing. -/
theorem node?_eq_none (hf : t.file? l = none) (hd : ¬ t.HasDirectory l) : t.node? l = none := by
  cases h : t.node? l with
  | none => rfl
  | some n =>
    cases n with
    | directory => exact absurd h hd
    | file bytes => rw [file?_eq_some.2 h] at hf; cases hf

/-- Trees with the same files and the same directories hold the same. -/
theorem node?_eq_of_views (hf : t.file? l = t'.file? l)
    (hd : t.HasDirectory l ↔ t'.HasDirectory l) : t.node? l = t'.node? l := by
  by_cases h : t.HasDirectory l
  · exact Eq.trans h (Eq.symm (hd.1 h))
  · cases hb : t.file? l with
    | none =>
      rw [node?_eq_none hb h, node?_eq_none (hf ▸ hb) (fun h' => h (hd.2 h'))]
    | some bytes =>
      rw [file?_eq_some.1 hb, file?_eq_some.1 (hf ▸ hb)]

/-! ## The places of a change -/

theorem node?_put (hl : l ≠ []) (n : Node) (m : Location) :
    (t.put l n).node? m = if m = l then some n else t.node? m := by
  split
  · next h => rw [h, node?_put_self t hl]
  · next h => exact node?_put_of_ne t h n

theorem node?_erase (hl : l ≠ []) (m : Location) :
    (t.erase l).node? m = if m = l then none else t.node? m := by
  split
  · next h => rw [h, node?_erase_self t hl]
  · next h => exact node?_erase_of_ne t h

/-- A tree stays well-formed if something is put into a directory, unless a file is put in the
place of a directory. -/
theorem WF.put (h : t.WF) {name : Text} (hl : t.HasDirectory l) {n : Node}
    (hn : n = .directory ∨ ¬ t.HasDirectory (l ++ [name])) : (t.put (l ++ [name]) n).WF := by
  have hne : l ++ [name] ≠ [] := by simp
  intro k x hx
  rw [node?_put hne] at hx
  have hk : t.HasDirectory k := by
    split at hx
    · next heq => rwa [(List.append_inj' heq rfl).1]
    · exact h k x hx
  rw [HasDirectory, node?_put hne]
  split
  · next heq =>
    subst heq
    rcases hn with rfl | hn
    · rfl
    · exact absurd hk hn
  · exact hk

/-- A tree stays well-formed if a file is taken away. -/
theorem WF.erase (h : t.WF) (hl : l ≠ []) (hd : ¬ t.HasDirectory l) : (t.erase l).WF := by
  intro k x hx
  rw [node?_erase hl] at hx
  split at hx
  · exact absurd rfl hx
  · have hk := h k x hx
    rw [HasDirectory, node?_erase hl]
    split
    · next heq => exact absurd (heq ▸ hk) hd
    · exact hk

/-! ## What a change shows -/

theorem file?_put_file (hl : l ≠ []) (bytes : Bytes) :
    (t.put l (.file bytes)).file? = Function.update t.file? l (some bytes) := by
  funext m
  by_cases h : m = l
  · simp [file?, node?_put hl, h]
  · simp [file?, node?_put hl, h, Function.update_of_ne]

/-- A new directory hides no file. -/
theorem file?_put_directory (hl : l ≠ []) (hn : t.node? l = none) :
    (t.put l .directory).file? = t.file? := by
  funext m
  by_cases h : m = l
  · simp [file?, node?_put hl, h, hn]
  · simp [file?, node?_put hl, h]

theorem file?_erase (hl : l ≠ []) : (t.erase l).file? = Function.update t.file? l none := by
  funext m
  by_cases h : m = l
  · simp [file?, node?_erase hl, h]
  · simp [file?, node?_erase hl, h, Function.update_of_ne]

theorem hasDirectory_put_file (hl : l ≠ []) (hd : ¬ t.HasDirectory l) (bytes : Bytes) :
    (t.put l (.file bytes)).HasDirectory m ↔ t.HasDirectory m := by
  rw [HasDirectory, HasDirectory, node?_put hl]
  split
  · next h => subst h; exact ⟨fun h => (by cases h), fun h => absurd h hd⟩
  · rfl

theorem hasDirectory_erase (hl : l ≠ []) (hd : ¬ t.HasDirectory l) :
    (t.erase l).HasDirectory m ↔ t.HasDirectory m := by
  rw [HasDirectory, HasDirectory, node?_erase hl]
  split
  · next h => subst h; exact ⟨fun h => (by cases h), fun h => absurd h hd⟩
  · rfl

theorem HasDirectory.put_directory (h : t.HasDirectory m) (hl : l ≠ []) :
    (t.put l .directory).HasDirectory m := by
  rw [HasDirectory, node?_put hl]
  split
  · rfl
  · exact h

end OpScaffold.FileTree
