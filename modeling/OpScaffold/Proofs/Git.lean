import OpScaffold.Git
import OpScaffold.Proofs.Files.View

/-!
# OpScaffold.Proofs.Git

A reset leaves a well-formed tree behind (`WF.reset`): what it writes lies in directories, and
nothing is left below what it removes.
-/

namespace OpScaffold.FileTree

variable {t : FileTree} {l m : Location}

theorem node?_discard (hm : m ≠ []) :
    (t.discard l).node? m = if l.isPrefixOf m then none else t.node? m := by
  rw [node?, if_neg hm, node?, if_neg hm, discard]
  induction t.nodes with
  | nil => simp
  | cons e rest ih =>
    obtain ⟨k, n⟩ := e
    by_cases hk : l.isPrefixOf k = true
    · rw [List.filter_cons_of_neg (by simp [hk]), ih]
      split
      · rfl
      · next hl =>
        have hne : (m == k) = false := by
          rw [beq_eq_false_iff_ne]
          rintro rfl
          exact hl hk
        rw [List.lookup_cons, hne]
    · rw [List.filter_cons_of_pos (by simp [hk]), List.lookup_cons, List.lookup_cons, ih]
      cases hmk : m == k with
      | false => rfl
      | true =>
        obtain rfl := beq_iff_eq.1 hmk
        simp [hk]

/-- Nothing is left at a location and below it. -/
theorem WF.discard (h : t.WF) (l : Location) : (t.discard l).WF := by
  intro k name hn
  rw [node?_discard (by simp)] at hn
  split at hn
  · exact absurd rfl hn
  · next hpre =>
    have hk : t.HasDirectory k := h k name hn
    by_cases hnil : k = []
    · subst hnil; rfl
    · rw [HasDirectory, node?_discard hnil, if_neg]
      · exact hk
      · intro hlk
        rw [List.isPrefixOf_iff_prefix] at hlk hpre
        exact hpre (hlk.trans (List.prefix_append k [name]))

theorem WF.ensure (h : t.WF) {name : Text} (hd : t.HasDirectory l) :
    (t.ensure (l ++ [name])).WF := by
  unfold FileTree.ensure
  split
  · exact h
  · exact h.put hd (.inl rfl)

theorem hasDirectory_ensure (t : FileTree) (l : Location) : (t.ensure l).HasDirectory l := by
  unfold ensure
  split
  · assumption
  · next h =>
    have hne : l ≠ [] := fun hnil => h (by rw [hnil]; rfl)
    exact node?_put_self t hne .directory

theorem HasDirectory.ensure (h : t.HasDirectory m) (l : Location) :
    (t.ensure l).HasDirectory m := by
  unfold FileTree.ensure
  split
  · exact h
  · next hd =>
    have hne : l ≠ [] := fun hnil => hd (by rw [hnil]; rfl)
    exact h.put_directory hne

/-- Directories are put at all locations above one. -/
theorem WF.ensureAbove (h : t.WF) (l : Location) :
    (t.ensureAbove l).WF ∧ ∀ n < l.length, (t.ensureAbove l).HasDirectory (l.take n) := by
  have hsteps : ∀ count ≤ l.length,
      let t' := (List.range count).foldl (fun t n => t.ensure (l.take n)) t
      t'.WF ∧ ∀ n < count, t'.HasDirectory (l.take n) := by
    intro count hcount
    induction count with
    | zero => exact ⟨h, by simp⟩
    | succ count ih =>
      obtain ⟨hwf, hdirs⟩ := ih (by omega)
      rw [List.range_succ, List.foldl_append, List.foldl_cons, List.foldl_nil]
      generalize (List.range count).foldl _ t = t' at hwf hdirs ⊢
      refine ⟨?_, fun n hn => ?_⟩
      · cases count with
        | zero => exact hwf
        | succ above =>
          have hlt : above < l.length := by omega
          rw [List.take_succ_eq_append_getElem hlt]
          exact hwf.ensure (hdirs above (by omega))
      · rcases Nat.lt_succ_iff_lt_or_eq.1 hn with hn | rfl
        · exact (hdirs n hn).ensure _
        · exact hasDirectory_ensure t' _
  exact hsteps l.length (Nat.le_refl _)

theorem WF.place (h : t.WF) (l : Location) (n : Node) : (t.place l n).WF := by
  obtain ⟨hwf, hdirs⟩ := h.ensureAbove l
  unfold FileTree.place
  dsimp only
  split
  · exact hwf
  · rcases List.eq_nil_or_concat l with rfl | ⟨above, name, rfl⟩
    · intro k x hn
      simp [node?, FileTree.put, FileTree.erase, FileTree.discard] at hn
    · rw [List.concat_eq_append] at hdirs hwf ⊢
      have hparent := hdirs above.length (by simp)
      rw [List.take_left] at hparent
      refine (hwf.discard _).put ?_ (.inr ?_)
      · by_cases hnil : above = []
        · subst hnil; rfl
        · rw [HasDirectory, node?_discard hnil, if_neg]
          · exact hparent
          · intro hpre
            have hle := (List.isPrefixOf_iff_prefix.1 hpre).length_le
            rw [List.length_append, List.length_singleton] at hle
            omega
      · rw [HasDirectory, node?_discard (by simp), if_pos (by simp)]
        simp

/-- A reset leaves a well-formed tree behind. -/
theorem WF.reset (h : t.WF) (g : Git) : (g.reset t).WF := by
  have hwrites : ∀ (writes : List (Path × Node)) (t : FileTree), t.WF →
      (writes.foldl (fun t w => t.place (t.resolve w.1) w.2) t).WF := by
    intro writes
    induction writes with
    | nil => exact fun _ h => h
    | cons w rest ih => exact fun t h => ih _ (h.place _ _)
  have hremoves : ∀ (removes : List Path) (t : FileTree), t.WF →
      (removes.foldl (fun t p => t.discard (t.resolve p)) t).WF := by
    intro removes
    induction removes with
    | nil => exact fun _ h => h
    | cons p rest ih => exact fun t h => ih _ (h.discard _)
  exact hremoves g.removes _ (hwrites g.writes t h)

end OpScaffold.FileTree
