import DeviceAtlas.Json

/-!
# Info maps

Free-form texts under text keys. The entries stand in the order of their keys, each key once, so
that two maps with the same answers are the same map.

* `InfoMap.get?_insert`: the last value written under a key is the one found, other keys keep
  theirs.
* `InfoMap.ext_get?`: a map is determined by its answers.
-/

namespace DeviceAtlas

/-- Texts under keys, in increasing order of the keys. -/
structure InfoMap where
  entries : List (String × String)
  ordered : entries.Pairwise fun a b => a.1 < b.1
  deriving DecidableEq

namespace InfoMap

/-- The map without entries. -/
def empty : InfoMap := ⟨[], .nil⟩

instance : Inhabited InfoMap := ⟨empty⟩

/-- Put a value under a key into entries in key order, in place of the one that is there. -/
def insertEntry (key value : String) : List (String × String) → List (String × String)
  | [] => [(key, value)]
  | entry :: rest =>
    if key < entry.1 then (key, value) :: entry :: rest
    else if key = entry.1 then (key, value) :: rest
    else entry :: insertEntry key value rest

theorem mem_insertEntry {key value : String} {entries : List (String × String)}
    {e : String × String} (h : e ∈ insertEntry key value entries) :
    e = (key, value) ∨ e ∈ entries := by
  fun_induction insertEntry key value entries <;> grind

/-- A key that is neither less than nor equal to another is greater. -/
theorem key_lt_of_not_lt {a b : String} (lt : ¬ a < b) (ne : a ≠ b) : b < a := by
  rcases Decidable.em (b < a) with h | h
  · exact h
  · exact absurd (String.le_antisymm (String.not_lt.1 h) (String.not_lt.1 lt)) ne

theorem ordered_insertEntry (key value : String) {entries : List (String × String)}
    (h : entries.Pairwise fun a b => a.1 < b.1) :
    (insertEntry key value entries).Pairwise fun a b => a.1 < b.1 := by
  fun_induction insertEntry key value entries with
  | case1 => simp
  | case2 entry rest lt =>
    refine List.pairwise_cons.2 ⟨fun e he => ?_, h⟩
    rcases List.mem_cons.1 he with rfl | he
    · exact lt
    · exact String.lt_trans lt (List.rel_of_pairwise_cons h he)
  | case3 entry rest _ eq =>
    refine List.pairwise_cons.2 ⟨fun e he => ?_, h.of_cons⟩
    exact eq ▸ List.rel_of_pairwise_cons h he
  | case4 entry rest lt ne ih =>
    refine List.pairwise_cons.2 ⟨fun e he => ?_, ih h.of_cons⟩
    rcases mem_insertEntry he with rfl | he
    · exact key_lt_of_not_lt lt ne
    · exact List.rel_of_pairwise_cons h he

/-- The map with this value under the key, whatever was there before. -/
def insert (m : InfoMap) (key value : String) : InfoMap :=
  ⟨insertEntry key value m.entries, ordered_insertEntry key value m.ordered⟩

/-- The value under a key. -/
def get? (m : InfoMap) (key : String) : Option String :=
  m.entries.lookup key

/-- The map that a list of writes leaves, later writes winning. -/
def ofList (writes : List (String × String)) : InfoMap :=
  writes.foldl (fun m w => m.insert w.1 w.2) empty

@[simp] theorem get?_empty (key : String) : empty.get? key = none := rfl

theorem lookup_eq_none_of_lt {key : String} {entries : List (String × String)}
    (h : ∀ e ∈ entries, key < e.1) : entries.lookup key = none := by
  induction entries with
  | nil => rfl
  | cons entry rest ih =>
    have ne : key ≠ entry.1 := fun eq =>
      String.lt_irrefl key (by simpa [← eq] using h entry (by simp))
    rw [List.lookup_cons, beq_false_of_ne ne]
    exact ih fun e he => h e (by simp [he])

/-- The last value written under a key is found there, and other keys keep theirs. -/
@[simp] theorem get?_insert (m : InfoMap) (key value other : String) :
    (m.insert key value).get? other = if other = key then some value else m.get? other := by
  obtain ⟨entries, ordered⟩ := m
  simp only [get?, insert]
  clear ordered
  fun_induction insertEntry key value entries with
  | case1 => grind
  | case2 => grind
  | case3 => grind
  | case4 => grind

theorem lookup_head (e : String × String) (rest : List (String × String)) :
    (e :: rest).lookup e.1 = some e.2 := by
  rw [List.lookup_cons, beq_self_eq_true]

/-- Ordered entries with the same answers begin with the same key. -/
theorem head_key_le {x y : String × String} {xs ys : List (String × String)}
    (hy : (y :: ys).Pairwise fun a b => a.1 < b.1)
    (h : (x :: xs).lookup x.1 = (y :: ys).lookup x.1) : ¬ x.1 < y.1 := by
  intro lt
  rw [lookup_head, lookup_eq_none_of_lt] at h
  · cases h
  · intro e he
    rcases List.mem_cons.1 he with rfl | he
    · exact lt
    · exact String.lt_trans lt (List.rel_of_pairwise_cons hy he)

/-- A map is determined by its answers. -/
theorem ext_get? {m n : InfoMap} (h : ∀ key, m.get? key = n.get? key) : m = n := by
  obtain ⟨xs, hx⟩ := m
  obtain ⟨ys, hy⟩ := n
  simp only [get?] at h
  congr
  induction xs generalizing ys with
  | nil =>
    cases ys with
    | nil => rfl
    | cons y ys => simpa [lookup_head] using h y.1
  | cons x xs ih =>
    cases ys with
    | nil => simpa [lookup_head] using h x.1
    | cons y ys =>
      have keys : x.1 = y.1 := by
        refine Decidable.byContradiction fun ne => ?_
        exact head_key_le hx (h y.1).symm (key_lt_of_not_lt (head_key_le hy (h x.1)) ne)
      have values : x.2 = y.2 := by
        have := h x.1
        rw [lookup_head, keys, lookup_head] at this
        exact Option.some.inj this
      obtain rfl : x = y := Prod.ext keys values
      congr 1
      refine ih hx.of_cons ys hy.of_cons fun key => ?_
      have := h key
      rw [List.lookup_cons, List.lookup_cons] at this
      split at this
      · rename_i eq
        rw [eq_of_beq eq, lookup_eq_none_of_lt fun e he => List.rel_of_pairwise_cons hx he,
          lookup_eq_none_of_lt fun e he => List.rel_of_pairwise_cons hy he]
      · exact this

/-! ## Order -/

/-- Maps compare entry by entry, a key before its value. -/
instance : Ord InfoMap where
  compare a b := compareOn (fun m => m.entries.map fun e => [e.1, e.2]) a b

/-! ## JSON form -/

/-- An object of texts. -/
def toJson (m : InfoMap) : Json :=
  .object (m.entries.map fun e => (e.1, .text e.2))

/-- Read an object of texts. -/
def ofJson? (j : Json) : Option InfoMap := do
  let fields ← j.fields?
  let writes ← fields.mapM fun field => field.2.text?.map fun value => (field.1, value)
  return ofList writes

end InfoMap

end DeviceAtlas
