/-!
# Maps that remember the order of their keys

An ordered map is a list of entries with distinct keys, kept in the order in which each key was
first inserted. Writing to a key that is present changes its value in place; writing to a new key
adds an entry at the end. Assemblies use such maps where the order of first insertion shows in
the output: labels in order of declaration, bytes in order of writing.
-/

namespace ByteAsm

/-- A finite map from `κ` to `ν` that keeps its keys in order of first insertion. -/
structure OrderedMap (κ : Type) (ν : Type) where
  entries : List (κ × ν)
deriving Inhabited

namespace OrderedMap

variable {κ ν : Type} [BEq κ]

/-- The map with no entries. -/
def empty : OrderedMap κ ν := ⟨[]⟩

/-- The value stored under `k`, if any. -/
def get? (m : OrderedMap κ ν) (k : κ) : Option ν :=
  (m.entries.find? (fun e => e.1 == k)).map Prod.snd

/-- Whether `k` has an entry. -/
def contains (m : OrderedMap κ ν) (k : κ) : Bool :=
  m.entries.any (fun e => e.1 == k)

/-- Store `v` under `k`: in place if `k` has an entry, as a new last entry otherwise. -/
def insert (m : OrderedMap κ ν) (k : κ) (v : ν) : OrderedMap κ ν :=
  if m.contains k then ⟨m.entries.map (fun e => if e.1 == k then (k, v) else e)⟩
  else ⟨m.entries ++ [(k, v)]⟩

/-- Store `v` under `k` only if `k` has no entry yet. -/
def insertIfAbsent (m : OrderedMap κ ν) (k : κ) (v : ν) : OrderedMap κ ν :=
  if m.contains k then m else ⟨m.entries ++ [(k, v)]⟩

/-- The keys, in order of first insertion. -/
def keys (m : OrderedMap κ ν) : List κ :=
  m.entries.map Prod.fst

/-- The number of entries. -/
def size (m : OrderedMap κ ν) : Nat :=
  m.entries.length

/-! ### Lemmas -/

section Lemmas

variable [LawfulBEq κ]

theorem contains_iff_mem_keys {m : OrderedMap κ ν} {k : κ} :
    m.contains k = true ↔ k ∈ m.keys := by
  simp [contains, keys]

theorem entries_insert_of_not_mem {m : OrderedMap κ ν} {k : κ} (v : ν) (h : k ∉ m.keys) :
    (m.insert k v).entries = m.entries ++ [(k, v)] := by
  rw [insert, if_neg (by rwa [contains_iff_mem_keys])]

theorem get?_eq_of_mem {m : OrderedMap κ ν} {k : κ} {v : ν} (hnodup : m.keys.Nodup)
    (hmem : (k, v) ∈ m.entries) : m.get? k = some v := by
  obtain ⟨entries⟩ := m
  simp only [get?, keys] at hnodup hmem ⊢
  induction entries with
  | nil => cases hmem
  | cons e rest ih =>
    simp only [List.map_cons, List.nodup_cons] at hnodup
    rcases List.mem_cons.1 hmem with rfl | hrest
    · simp
    · have hne : e.1 ≠ k := fun heq =>
        hnodup.1 (heq ▸ List.mem_map_of_mem (f := Prod.fst) hrest)
      simp [hne, ih hnodup.2 hrest]

theorem mem_entries_of_get? {m : OrderedMap κ ν} {k : κ} {v : ν} (h : m.get? k = some v) :
    (k, v) ∈ m.entries := by
  obtain ⟨e, hfind, rfl⟩ := Option.map_eq_some_iff.1 h
  have hkey : e.1 = k := by simpa using List.find?_some hfind
  rw [← hkey]
  exact List.mem_of_find?_eq_some hfind

theorem mem_keys_iff_isSome_get? {m : OrderedMap κ ν} {k : κ} : k ∈ m.keys ↔ (m.get? k).isSome := by
  constructor
  · intro hk
    obtain ⟨e, he, rfl⟩ := List.mem_map.1 hk
    cases hfind : m.entries.find? (fun x => x.1 == e.1) with
    | none => exact absurd (List.find?_eq_none.1 hfind e he) (by simp)
    | some x => simp [get?, hfind]
  · intro h
    obtain ⟨v, hv⟩ := Option.isSome_iff_exists.1 h
    exact List.mem_map_of_mem (f := Prod.fst) (mem_entries_of_get? hv)

/-- Reading after a write: the key written holds the value written, and every other key what it
held. -/
@[simp]
theorem get?_insert (m : OrderedMap κ ν) (k : κ) (v : ν) (k' : κ) :
    (m.insert k v).get? k' = if k == k' then some v else m.get? k' := by
  unfold insert get?
  split
  · next hcontains =>
    -- writing in place changes the value of the entry of `k`, and no key
    have hkeys : ((fun e : κ × ν => e.1 == k') ∘ fun e => if e.1 == k then (k, v) else e) =
        fun e => e.1 == k' := by
      funext e
      by_cases he : e.1 = k <;> simp [he]
    rw [List.find?_map, hkeys]
    cases hfind : m.entries.find? (fun e => e.1 == k') with
    | none =>
      obtain ⟨e, he, hek⟩ := List.any_eq_true.1 hcontains
      have hne : ¬ (k == k') = true := fun hk =>
        absurd (List.find?_eq_none.1 hfind e he) (by simp_all)
      simp [hne]
    | some e =>
      have hek' : e.1 = k' := by simpa using List.find?_some hfind
      by_cases hk : k = k'
      · simp [hk, hek']
      · have he : e.1 ≠ k := hek' ▸ Ne.symm hk
        simp [hk, he]
  · next hcontains =>
    rw [List.find?_append]
    by_cases hk : k = k'
    · subst hk
      have hnone : m.entries.find? (fun e => e.1 == k) = none :=
        List.find?_eq_none.2 fun e he hek => hcontains (List.any_eq_true.2 ⟨e, he, hek⟩)
      simp [hnone]
    · simp [hk]

/-- Reading after a write where the key is new: a key that had a value keeps it, and the key
written holds the value written if it had none. -/
@[simp]
theorem get?_insertIfAbsent (m : OrderedMap κ ν) (k : κ) (v : ν) (k' : κ) :
    (m.insertIfAbsent k v).get? k' = (m.get? k').or (if k == k' then some v else none) := by
  unfold insertIfAbsent
  split
  · next hcontains =>
    by_cases hk : k = k'
    · subst hk
      obtain ⟨e, he, hek⟩ := List.any_eq_true.1 hcontains
      cases hfind : m.entries.find? (fun e => e.1 == k) with
      | none => exact absurd (List.find?_eq_none.1 hfind e he) (by simpa using hek)
      | some e' => simp [get?, hfind]
    · simp [hk]
  · simp only [get?, List.find?_append]
    cases m.entries.find? (fun e => e.1 == k') <;> by_cases hk : k = k' <;> simp [hk]

theorem mem_entries_insert {m : OrderedMap κ ν} {k : κ} {v : ν} {e : κ × ν}
    (h : e ∈ (m.insert k v).entries) : e ∈ m.entries ∨ e = (k, v) := by
  unfold insert at h
  split at h
  · obtain ⟨e', he', rfl⟩ := List.mem_map.1 h
    by_cases hkey : e'.1 = k
    · exact .inr (by simp [hkey])
    · exact .inl (by simpa [hkey] using he')
  · simpa using h

omit [LawfulBEq κ] in
theorem mem_entries_insertIfAbsent {m : OrderedMap κ ν} {k : κ} {v : ν} {e : κ × ν}
    (h : e ∈ (m.insertIfAbsent k v).entries) : e ∈ m.entries ∨ e = (k, v) := by
  unfold insertIfAbsent at h
  split at h
  · exact .inl h
  · simpa using h

/-- Writing keeps the keys distinct: in place the keys stay as they were, and a new key comes
last. -/
theorem keys_nodup_insert {m : OrderedMap κ ν} {k : κ} (v : ν) (h : m.keys.Nodup) :
    (m.insert k v).keys.Nodup := by
  by_cases hk : k ∈ m.keys
  · have hkeys : (m.insert k v).keys = m.keys := by
      rw [keys, insert, if_pos (contains_iff_mem_keys.2 hk), keys, List.map_map]
      apply List.map_congr_left
      intro e _
      by_cases hkey : e.1 = k <;> simp [hkey]
    rwa [hkeys]
  · rw [keys, entries_insert_of_not_mem v hk, List.map_append]
    refine List.nodup_append.2 ⟨h, by simp, ?_⟩
    intro a ha b hb
    have hbk : b = k := by simpa using hb
    rw [hbk]
    exact fun heq => hk (heq ▸ ha)

end Lemmas

end OrderedMap

end ByteAsm
