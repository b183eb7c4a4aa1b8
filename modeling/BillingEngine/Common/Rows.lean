import Mathlib

/-!
# Tables as lists of rows

A table is the list of its rows in insertion order. A column is a function on
rows; a column declared unique has no two rows with the same value, which for a
list is `(l.map key).Nodup`, and for a nullable column `(l.filterMap key).Nodup`
(SQL does not compare nulls). `l.find?` is `SELECT … WHERE … LIMIT 1`.

Results: a lookup by a unique column finds the one row that has the value
(`find?_eq_some_of_unique`), an in-place update that keeps a column keeps its
values (`map_map_of_eq`), what is in a table after one row is replaced
(`mem_of_mem_replace`), when a nullable column stays unique after an insert or an
update (`nodup_filterMap_concat_iff`, `nodup_filterMap_replace`), a table of updates
made row by row has for each row its own update (`lookup_flatMap_of_unique`), a row
that is inserted when it is missing (`ensure`), an inner join with a unique column
only filters (`flatMap_join_of_unique`), and selections of which every row meets
exactly one make up the table (`flatMap_filter_perm`).
-/

namespace Rows

variable {ρ κ : Type*} [DecidableEq κ]

theorem find?_mem {key : ρ → κ} {k : κ} {l : List ρ} {r : ρ}
    (h : l.find? (fun r => decide (key r = k)) = some r) : r ∈ l ∧ key r = k :=
  ⟨List.mem_of_find?_eq_some h, by simpa using List.find?_some h⟩

theorem find?_eq_none {key : ρ → κ} {k : κ} {l : List ρ} :
    l.find? (fun r => decide (key r = k)) = none ↔ ∀ r ∈ l, key r ≠ k := by
  simp [List.find?_eq_none]

theorem find?_isSome_of_mem (key : ρ → κ) {l : List ρ} {r : ρ} (h : r ∈ l) :
    ∃ r', l.find? (fun r' => decide (key r' = key r)) = some r' := by
  cases hf : l.find? (fun r' => decide (key r' = key r)) with
  | some r' => exact ⟨r', rfl⟩
  | none => exact absurd rfl (find?_eq_none.mp hf r h)

omit [DecidableEq κ] in
theorem eq_of_unique {key : ρ → κ} {l : List ρ} (hu : (l.map key).Nodup) {r r' : ρ}
    (hr : r ∈ l) (hr' : r' ∈ l) (h : key r = key r') : r = r' :=
  List.inj_on_of_nodup_map hu hr hr' h

/-- A value that a column has at most once is that of one row. -/
theorem eq_of_count_le_one {key : ρ → κ} {l : List ρ} {k : κ} (h : (l.map key).count k ≤ 1)
    {r r' : ρ} (hr : r ∈ l) (hr' : r' ∈ l) (hk : key r = k) (hk' : key r' = k) : r = r' := by
  by_contra hne
  obtain ⟨l₁, l₂, rfl⟩ := List.append_of_mem hr
  have hrest : r' ∈ l₁ ++ l₂ := by
    rw [List.mem_append, List.mem_cons] at hr'
    rw [List.mem_append]
    tauto
  have hpos : 0 < ((l₁ ++ l₂).map key).count k :=
    List.count_pos_iff.mpr (List.mem_map.mpr ⟨r', hrest, hk'⟩)
  simp only [List.map_append, List.map_cons, List.count_append, hk, List.count_cons_self] at h hpos
  omega

/-- A lookup by a unique column finds the row that has the value. -/
theorem find?_eq_some_of_unique {key : ρ → κ} {l : List ρ} (hu : (l.map key).Nodup) {r : ρ}
    (hr : r ∈ l) : l.find? (fun r' => decide (key r' = key r)) = some r := by
  obtain ⟨r', h⟩ := find?_isSome_of_mem key hr
  obtain ⟨hmem, hkey⟩ := find?_mem h
  rw [h, eq_of_unique hu hmem hr hkey]

omit [DecidableEq κ] in
/-- Two rows of a table with a unique nullable column do not share a value. -/
theorem eq_of_unique_filterMap {key : ρ → Option κ} {l : List ρ} (hu : (l.filterMap key).Nodup)
    {r r' : ρ} {k : κ} (hr : r ∈ l) (hr' : r' ∈ l) (h : key r = some k) (h' : key r' = some k) :
    r = r' := by
  induction l with
  | nil => simp at hr
  | cons x l ih =>
    have hcol : ∀ y ∈ l, key y = some k → k ∈ l.filterMap key := fun y hy hk =>
      List.mem_filterMap.mpr ⟨y, hy, hk⟩
    rcases List.mem_cons.mp hr with rfl | hmem <;> rcases List.mem_cons.mp hr' with rfl | hmem'
    · rfl
    · rw [List.filterMap_cons_some h] at hu
      exact absurd (hcol r' hmem' h') (List.nodup_cons.mp hu).1
    · rw [List.filterMap_cons_some h'] at hu
      exact absurd (hcol r hmem h) (List.nodup_cons.mp hu).1
    · refine ih ?_ hmem hmem'
      cases hx : key x with
      | none => rwa [List.filterMap_cons_none hx] at hu
      | some v => rw [List.filterMap_cons_some hx] at hu; exact (List.nodup_cons.mp hu).2

/-- Pairs that are made from rows, each under the key of its row: looking up the
    key of a row finds what was made from that row. -/
theorem lookup_flatMap_of_unique {β : Type*} {key : ρ → κ} {g : ρ → List (κ × β)}
    (hg : ∀ r, ∀ p ∈ g r, p.1 = key r) {l : List ρ} (hu : (l.map key).Nodup) {r : ρ} (hr : r ∈ l) :
    (l.flatMap g).lookup (key r) = (g r).lookup (key r) := by
  have hnone : ∀ (k : κ) (ps : List (κ × β)), (∀ p ∈ ps, p.1 ≠ k) → ps.lookup k = none := by
    intro k ps hps
    rw [List.lookup_eq_none_iff]
    intro p hp
    simpa using (hps p hp).symm
  induction l with
  | nil => simp at hr
  | cons x l ih =>
    rw [List.map_cons, List.nodup_cons] at hu
    rw [List.flatMap_cons, List.lookup_append]
    by_cases hx : key x = key r
    · -- no later row has the key
      obtain rfl : r = x := by
        rcases List.mem_cons.mp hr with rfl | hmem
        · rfl
        · exact absurd (hx ▸ List.mem_map_of_mem hmem) hu.1
      have hrest : (l.flatMap g).lookup (key r) = none := by
        refine hnone _ _ fun p hp hpk => ?_
        obtain ⟨y, hy, hpy⟩ := List.mem_flatMap.mp hp
        exact hu.1 (by rw [← hpk, hg y p hpy]; exact List.mem_map_of_mem hy)
      rw [hrest, Option.or_none]
    · have hmem : r ∈ l := (List.mem_cons.mp hr).resolve_left fun h => hx (by rw [h])
      have hfirst : (g x).lookup (key r) = none :=
        hnone _ _ fun p hp hpk => hx (by rw [← hg x p hp, hpk])
      rw [hfirst, Option.none_or, ih hu.2 hmem]

/-- `SELECT l.* FROM l JOIN l' ON l'.key = l.fkey WHERE p l'` -/
theorem flatMap_join_of_unique {σ : Type*} {key : σ → κ} (fkey : ρ → κ) (p : σ → Bool)
    {l' : List σ} (hu : (l'.map key).Nodup) (l : List ρ) :
    (l.flatMap fun r => (l'.filter fun s => decide (key s = fkey r) && p s).map fun _ => r) =
      l.filter fun r => decide (∃ s ∈ l', key s = fkey r ∧ p s = true) := by
  have hone : ∀ (r : ρ) (m : List σ), (m.map key).Nodup →
      (m.filter fun s => decide (key s = fkey r) && p s).map (fun _ => r) =
        if ∃ s ∈ m, key s = fkey r ∧ p s = true then [r] else [] := by
    intro r m hm
    induction m with
    | nil => simp
    | cons s m ih =>
      rw [List.map_cons, List.nodup_cons] at hm
      by_cases hs : key s = fkey r ∧ p s = true
      · -- no other row has the key
        have hnone : m.filter (fun s => decide (key s = fkey r) && p s) = [] := by
          rw [List.filter_eq_nil_iff]
          intro s' hs' hsel
          simp only [Bool.and_eq_true, decide_eq_true_eq] at hsel
          exact hm.1 (hs.1 ▸ hsel.1 ▸ List.mem_map_of_mem hs')
        simp [hs, hnone]
      · have hsel : (decide (key s = fkey r) && p s) = false := by
          simpa [Bool.and_eq_true] using hs
        rw [List.filter_cons_of_neg (by simp [hsel]), ih hm.2]
        simp [hs]
  induction l with
  | nil => rfl
  | cons r l ih =>
    rw [List.flatMap_cons, ih, hone r l' hu, List.filter_cons]
    by_cases hr : ∃ s ∈ l', key s = fkey r ∧ p s = true
    · rw [if_pos hr, if_pos (decide_eq_true hr), List.singleton_append]
    · rw [if_neg hr, if_neg (by simpa using hr), List.nil_append]

omit [DecidableEq κ] in
/-- A condition that implies another one selects the same rows after it. -/
theorem filter_filter_of_imp {p q : ρ → Bool} {l : List ρ} (h : ∀ r ∈ l, p r → q r) :
    (l.filter q).filter p = l.filter p := by
  rw [List.filter_filter]
  refine List.filter_congr fun r hr => ?_
  have := h r hr
  cases hp : p r <;> simp_all

omit [DecidableEq κ] in
theorem find?_filter_of_imp {p q : ρ → Bool} {l : List ρ} (h : ∀ r ∈ l, p r → q r) :
    (l.filter q).find? p = l.find? p := by
  rw [← List.head?_filter, ← List.head?_filter, filter_filter_of_imp h]

omit [DecidableEq κ] in
/-- Selections that cover a table and do not overlap make it up. -/
theorem flatMap_filter_perm {p : κ → ρ → Bool} {ks : List κ} (hks : ks.Nodup) {l : List ρ}
    (hcover : ∀ r ∈ l, ∃ k ∈ ks, p k r) (hsingle : ∀ r ∈ l, ∀ k k', p k r → p k' r → k = k') :
    (ks.flatMap fun k => l.filter (p k)).Perm l := by
  induction ks generalizing l with
  | nil =>
    cases l with
    | nil => exact .refl _
    | cons r l => obtain ⟨k, hk, -⟩ := hcover r List.mem_cons_self; cases hk
  | cons k ks ih =>
    obtain ⟨hk, hks⟩ := List.nodup_cons.mp hks
    -- the other keys select from the rows that `k` leaves over
    let rest := l.filter fun r => !p k r
    have hrest : ∀ r ∈ rest, r ∈ l ∧ ¬ p k r := fun r hr => by simpa [rest] using hr
    have hperm : (ks.flatMap fun k' => rest.filter (p k')).Perm rest := by
      refine ih hks (fun r hr => ?_) fun r hr => hsingle r (hrest r hr).1
      obtain ⟨k', hk', hp⟩ := hcover r (hrest r hr).1
      rcases List.mem_cons.mp hk' with rfl | hk'
      · exact absurd hp (hrest r hr).2
      · exact ⟨k', hk', hp⟩
    have hsame : (ks.flatMap fun k' => rest.filter (p k')) = ks.flatMap fun k' => l.filter (p k') :=
      List.flatMap_congr fun k' hk' => filter_filter_of_imp fun r hr hp =>
        by simpa using fun hpk => hk (hsingle r hr k k' hpk hp ▸ hk')
    rw [List.flatMap_cons, ← hsame]
    exact (hperm.append_left _).trans (List.filter_append_perm (p k) l)

/-- `UPDATE l SET … WHERE key = …`: the row of that key becomes `r`. -/
def replace (key : ρ → κ) (r : ρ) (l : List ρ) : List ρ :=
  l.map fun r' => if key r' = key r then r else r'

theorem mem_of_mem_replace {key : ρ → κ} {r x : ρ} {l : List ρ} (h : x ∈ replace key r l) :
    x = r ∨ x ∈ l ∧ key x ≠ key r := by
  obtain ⟨r', hr', rfl⟩ := List.mem_map.mp h
  split_ifs with heq
  · exact .inl rfl
  · exact .inr ⟨hr', heq⟩

theorem self_mem_replace {key : ρ → κ} {r r₀ : ρ} {l : List ρ} (h₀ : r₀ ∈ l)
    (hkey : key r₀ = key r) : r ∈ replace key r l :=
  List.mem_map.mpr ⟨r₀, h₀, if_pos hkey⟩

theorem mem_replace_of_ne {key : ρ → κ} {r x : ρ} {l : List ρ} (hx : x ∈ l)
    (hne : key x ≠ key r) : x ∈ replace key r l :=
  List.mem_map.mpr ⟨x, hx, if_neg hne⟩

/-- The row is replaced where it is, and the rows around it stay. -/
theorem replace_split {key : ρ → κ} {r r₀ : ρ} {l : List ρ} (hu : (l.map key).Nodup)
    (h₀ : r₀ ∈ l) (hkey : key r₀ = key r) :
    ∃ before after, l = before ++ r₀ :: after ∧ replace key r l = before ++ r :: after := by
  obtain ⟨before, after, rfl⟩ := List.append_of_mem h₀
  rw [List.map_append, List.map_cons, List.nodup_middle, List.nodup_cons, List.mem_append,
    not_or, hkey] at hu
  have hkeep : ∀ l : List ρ, key r ∉ l.map key → replace key r l = l := by
    intro l hl
    have hid : ∀ x ∈ l, (if key x = key r then r else x) = id x := fun x hx =>
      if_neg fun heq : key x = key r => hl (by rw [← heq]; exact List.mem_map_of_mem hx)
    exact (List.map_congr_left hid).trans (List.map_id l)
  refine ⟨before, after, rfl, ?_⟩
  rw [replace, List.map_append, List.map_cons, if_pos hkey]
  exact congrArg₂ _ (hkeep before hu.1.1) (congrArg _ (hkeep after hu.1.2))

/-- A query whose first row is replaced by one that it still selects finds the new row. -/
theorem find?_replace {key : ρ → κ} {p : ρ → Bool} {r r₀ : ρ} {l : List ρ}
    (hu : (l.map key).Nodup) (h₀ : l.find? p = some r₀) (hkey : key r = key r₀) (hp : p r = true) :
    (replace key r l).find? p = some r := by
  induction l with
  | nil => cases h₀
  | cons x l ih =>
    rw [List.map_cons, List.nodup_cons] at hu
    rw [replace, List.map_cons, ← replace]
    by_cases hx : p x = true
    · rw [List.find?_cons_of_pos hx] at h₀
      cases h₀
      rw [if_pos hkey.symm, List.find?_cons_of_pos hp]
    · rw [List.find?_cons_of_neg hx] at h₀
      -- the replaced row comes later, so its key is not that of the first row
      have hne : key x ≠ key r := fun heq =>
        hu.1 (by rw [heq, hkey]; exact List.mem_map_of_mem (List.mem_of_find?_eq_some h₀))
      rw [if_neg hne, List.find?_cons_of_neg hx, ih hu.2 h₀]

/-- Replacing a row by one with the same value in a column keeps that column. -/
theorem map_replace_of_eq {β : Type*} {key : ρ → κ} {col : ρ → β} {r : ρ} {l : List ρ}
    (h : ∀ r' ∈ l, key r' = key r → col r' = col r) : (replace key r l).map col = l.map col := by
  rw [replace, List.map_map]
  refine List.map_congr_left fun r' hr' => ?_
  simp only [Function.comp_apply]
  split_ifs with heq
  · exact (h r' hr' heq).symm
  · rfl

/-- Replacing a row keeps a nullable column unique, if no other row has its new value. -/
theorem nodup_filterMap_replace {β : Type*} {key : ρ → κ} {col : ρ → Option β} {r : ρ}
    {l : List ρ}
    (hkey : (l.map key).Nodup) (hcol : (l.filterMap col).Nodup)
    (hnew : ∀ r' ∈ l, key r' ≠ key r → ∀ v, col r = some v → col r' ≠ some v) :
    ((replace key r l).filterMap col).Nodup := by
  unfold List.Nodup at hcol hkey ⊢
  rw [List.pairwise_filterMap] at hcol ⊢
  rw [List.pairwise_map] at hkey
  rw [replace, List.pairwise_map]
  refine (hkey.and hcol).imp_of_mem fun {x y} hx hy hxy v hv w hw => ?_
  split_ifs at hv hw with hxr hyr hyr
  · exact absurd (hxr.trans hyr.symm) hxy.1
  · exact fun heq => hnew y hy hyr v hv (heq ▸ hw)
  · exact fun heq => hnew x hx hxr w hw (heq ▸ hv)
  · exact hxy.2 v hv w hw

/-- `INSERT r` unless there is a row with its `key`. -/
def ensure (key : ρ → κ) (r : ρ) (l : List ρ) : List ρ :=
  if (l.find? fun r' => decide (key r' = key r)).isSome then l else l ++ [r]

theorem ensure_of_find? {key : ρ → κ} {r r' : ρ} {l : List ρ}
    (h : l.find? (fun r' => decide (key r' = key r)) = some r') : ensure key r l = l := by
  rw [ensure, h]
  rfl

theorem ensure_of_none {key : ρ → κ} {r : ρ} {l : List ρ}
    (h : l.find? (fun r' => decide (key r' = key r)) = none) : ensure key r l = l ++ [r] := by
  rw [ensure, h, if_neg (by simp)]

theorem prefix_ensure (key : ρ → κ) (r : ρ) (l : List ρ) : l <+: ensure key r l := by
  unfold ensure
  split_ifs
  · exact List.prefix_rfl
  · exact List.prefix_append _ _

theorem mem_map_ensure {β : Type*} {key : ρ → κ} {col : ρ → β} {r : ρ} {l : List ρ} {v : β}
    (h : v ∈ (ensure key r l).map col) : v ∈ l.map col ∨ v = col r := by
  unfold ensure at h
  split_ifs at h
  · exact .inl h
  · simpa [or_comm, eq_comm] using h

/-- What a query finds in a column stays, while the queried column and this one only grow. -/
theorem find?_map_of_prefix {β : Type*} {key : ρ → κ} {col : ρ → β} {l l' : List ρ} {k : κ} {v : β}
    (hgrow : l.map (fun r => (key r, col r)) <+: l'.map fun r => (key r, col r))
    (h : (l.find? fun r => decide (key r = k)).map col = some v) :
    (l'.find? fun r => decide (key r = k)).map col = some v := by
  have hpairs : ∀ m : List ρ, (m.find? fun r => decide (key r = k)).map col =
      ((m.map fun r => (key r, col r)).find? fun p => decide (p.1 = k)).map Prod.snd := by
    intro m
    rw [List.find?_map, Option.map_map]
    rfl
  rw [hpairs, Option.map_eq_some_iff] at h ⊢
  obtain ⟨p, hp, hv⟩ := h
  exact ⟨p, hgrow.find?_eq_some hp, hv⟩

omit [DecidableEq κ] in
/-- An update that keeps a column keeps the list of its values. -/
theorem map_map_of_eq {col : ρ → κ} {f : ρ → ρ} (h : ∀ r, col (f r) = col r) (l : List ρ) :
    (l.map f).map col = l.map col := by
  simp [Function.comp_def, h]

end Rows
