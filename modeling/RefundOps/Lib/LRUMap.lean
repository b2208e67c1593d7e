import RefundOps.Lib.Dict

/-!
# A dictionary of the entries used last

`OrderedDict` as a least-recently-used map: a dictionary whose order is that of use. A lookup that
finds its key and an assignment both move the entry to the end, and an assignment beyond the size
drops the first.

What a user of the cache relies on is that it never makes anything up: every entry was put there, and
one key has one entry, the last that was put (`mem_get`, `mem_put`).
-/

set_option autoImplicit false

namespace RefundOps

structure LRUMap (α β : Type) extends Dict α β where
  maxsize : Nat

namespace LRUMap

variable {α β : Type}

def empty (maxsize : Nat) : LRUMap α β := { entries := [], nodup := List.nodup_nil, maxsize }

variable [DecidableEq α]

def moveToEnd (k : α) (v : β) (entries : List (α × β)) : List (α × β) :=
  entries.filter (fun e => e.1 ≠ k) ++ [(k, v)]

theorem mem_moveToEnd {k : α} {v : β} {entries : List (α × β)} {e : α × β} :
    e ∈ moveToEnd k v entries ↔ e = (k, v) ∨ e ∈ entries ∧ e.1 ≠ k := by
  unfold moveToEnd
  rw [List.mem_append, List.mem_filter, List.mem_singleton, decide_eq_true_iff]
  exact or_comm

theorem nodup_moveToEnd {k : α} {v : β} {entries : List (α × β)}
    (h : (entries.map Prod.fst).Nodup) : ((moveToEnd k v entries).map Prod.fst).Nodup := by
  unfold moveToEnd
  rw [List.map_append, List.nodup_append]
  refine ⟨h.sublist (List.filter_sublist.map _), List.nodup_singleton _, ?_⟩
  intro a ha b hb
  obtain ⟨e, he, rfl⟩ := List.mem_map.mp ha
  rw [List.mem_singleton.mp hb]
  exact of_decide_eq_true (List.mem_filter.mp he).2

/-- `get`, which refreshes the entry it finds. -/
def get (c : LRUMap α β) (k : α) : Option β × LRUMap α β :=
  match c.get? k with
  | some v => (some v, { c with entries := moveToEnd k v c.entries, nodup := nodup_moveToEnd c.nodup })
  | none => (none, c)

/-- `put`. -/
def put (c : LRUMap α β) (k : α) (v : β) : LRUMap α β :=
  if (moveToEnd k v c.entries).length > c.maxsize then
    { c with
      entries := (moveToEnd k v c.entries).tail
      nodup := by
        rw [List.map_tail]
        exact (nodup_moveToEnd c.nodup).tail }
  else { c with entries := moveToEnd k v c.entries, nodup := nodup_moveToEnd c.nodup }

variable {c : LRUMap α β} {k : α} {v : β} {e : α × β}

theorem get?_eq_some_iff : c.get? k = some v ↔ (k, v) ∈ c.entries := by
  constructor
  · intro h
    obtain ⟨l₁, l₂, hl, -⟩ := List.lookup_eq_some_iff.mp h
    rw [hl]
    simp
  · exact Dict.get?_of_mem

@[simp] theorem get_fst : (c.get k).1 = c.get? k := by
  unfold get
  cases c.get? k <;> rfl

/-- A lookup changes the order and nothing else. -/
theorem mem_get : e ∈ (c.get k).2.entries ↔ e ∈ c.entries := by
  unfold get
  cases h : c.get? k with
  | none => rfl
  | some v =>
    have hmem := get?_eq_some_iff.mp h
    show e ∈ moveToEnd k v c.entries ↔ _
    rw [mem_moveToEnd]
    constructor
    · rintro (rfl | he)
      · exact hmem
      · exact he.1
    · intro he
      by_cases hk : e.1 = k
      · have hfound : c.get? e.1 = some e.2 := get?_eq_some_iff.mpr he
        rw [hk, h] at hfound
        exact .inl (Prod.ext hk (Option.some.inj hfound).symm)
      · exact .inr ⟨he, hk⟩

/-- After an assignment there are its own entry and old ones under other keys. -/
theorem mem_put (he : e ∈ (c.put k v).entries) : e = (k, v) ∨ e ∈ c.entries ∧ e.1 ≠ k := by
  unfold put at he
  split at he
  · exact mem_moveToEnd.mp (List.mem_of_mem_tail he)
  · exact mem_moveToEnd.mp he

end LRUMap

end RefundOps
