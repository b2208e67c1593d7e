import RefundOps.Lib.Substitution

/-!
# What substitutions leave standing

A stretch of a text survives a substitution if no match that is replaced has a character in common
with it. `replaced` lists those matches, each with the places where it begins and ends, and `Spared`
says that none of them meets the stretch. What stood before a stretch that is spared is then written
before it (`written`), and what stood after it after it, so for rules that are applied one after
another the same is asked of what the rules before have left (`Taken`).

**`infix_applyAll_iff`**: a word that has no character of a marker in it is in the result if and only
if it stands somewhere in the text where no rule takes it.
-/

set_option autoImplicit false

namespace RefundOps.Substitution

variable {α : Type} {word : α → Bool} {p : Pattern α} {repl : List α} {s e : Place α}

/-! ## The matches that are replaced -/

def Place.pos (s : Place α) : Nat := s.before.length

/-- `p.finditer(text)`, from a place on: where the matches begin and end. -/
def replaced (word : α → Bool) (p : Pattern α) (s : Place α) : List (Place α × Place α) :=
  match _ : (ends word p.expr s).head? with
  | some e => (s, e) :: replaced word p e
  | none =>
    match _ : s.after with
    | [] => []
    | c :: after => replaced word p ⟨c :: s.before, after⟩
termination_by s.after.length
decreasing_by
  · rename_i h
    exact Pattern.advances (List.mem_of_mem_head? h)
  · rename_i hs
    rw [hs]
    exact Nat.lt_succ_self _

/-- What is written until the scan gets to a position. -/
def written (word : α → Bool) (p : Pattern α) (repl : List α) (n : Nat) (s : Place α) : List α :=
  if n ≤ s.pos then []
  else
    match _ : (ends word p.expr s).head? with
    | some e => repl ++ written word p repl n e
    | none =>
      match _ : s.after with
      | [] => []
      | c :: after => c :: written word p repl n ⟨c :: s.before, after⟩
termination_by s.after.length
decreasing_by
  · rename_i h
    exact Pattern.advances (List.mem_of_mem_head? h)
  · rename_i hs
    rw [hs]
    exact Nat.lt_succ_self _

/-- A match has a character in common with the `len` characters from position `n` on. -/
def Meets (m : Place α × Place α) (n len : Nat) : Prop :=
  m.1.pos < n + len ∧ n < m.2.pos

/-- No match that is replaced meets them. -/
def Spared (word : α → Bool) (p : Pattern α) (s : Place α) (n len : Nat) : Prop :=
  ∀ m ∈ replaced word p s, ¬ Meets m n len

theorem replaced_of_match (h : (ends word p.expr s).head? = some e) :
    replaced word p s = (s, e) :: replaced word p e := by
  rw [replaced]
  split
  · rename_i e' he
    rw [h] at he
    cases he
    rfl
  · rename_i hnone
    rw [h] at hnone
    cases hnone

theorem replaced_of_cons {c : α} {after : List α} (h : (ends word p.expr s).head? = none)
    (hs : s.after = c :: after) :
    replaced word p s = replaced word p ⟨c :: s.before, after⟩ := by
  rw [replaced]
  split
  · rename_i e' he
    rw [h] at he
    cases he
  · split
    · rename_i hnil
      rw [hs] at hnil
      cases hnil
    · rename_i c' after' hcons
      rw [hs] at hcons
      cases hcons
      rfl

theorem replaced_of_nil (h : (ends word p.expr s).head? = none) (hs : s.after = []) :
    replaced word p s = [] := by
  rw [replaced]
  split
  · rename_i e' he
    rw [h] at he
    cases he
  · split
    · rfl
    · rename_i c' after' hcons
      rw [hs] at hcons
      cases hcons

theorem written_of_le {n : Nat} (h : n ≤ s.pos) : written word p repl n s = [] := by
  rw [written, if_pos h]

theorem written_of_match {n : Nat} (hn : s.pos < n) (h : (ends word p.expr s).head? = some e) :
    written word p repl n s = repl ++ written word p repl n e := by
  rw [written, if_neg (Nat.not_le.mpr hn)]
  split
  · rename_i e' he
    rw [h] at he
    cases he
    rfl
  · rename_i hnone
    rw [h] at hnone
    cases hnone

theorem written_of_cons {n : Nat} {c : α} {after : List α} (hn : s.pos < n)
    (h : (ends word p.expr s).head? = none) (hs : s.after = c :: after) :
    written word p repl n s = c :: written word p repl n ⟨c :: s.before, after⟩ := by
  rw [written, if_neg (Nat.not_le.mpr hn)]
  split
  · rename_i e' he
    rw [h] at he
    cases he
  · split
    · rename_i hnil
      rw [hs] at hnil
      cases hnil
    · rename_i c' after' hcons
      rw [hs] at hcons
      cases hcons
      rfl

/-- A match that is taken goes over a word that is not empty. -/
theorem exists_word_of_match (h : (ends word p.expr s).head? = some e) :
    ∃ x, x ≠ [] ∧ s.after = x ++ e.after ∧ e.before = x.reverse ++ s.before ∧
      e.pos = s.pos + x.length := by
  obtain ⟨x, hx, hb, hmatch⟩ := mem_ends_iff.mp (List.mem_of_mem_head? h)
  refine ⟨x, Pattern.ne_nil hmatch, hx, hb, ?_⟩
  unfold Place.pos
  rw [hb, List.length_append, List.length_reverse]
  exact Nat.add_comm _ _

theorem pos_lt_of_match (h : (ends word p.expr s).head? = some e) : s.pos < e.pos := by
  obtain ⟨x, hne, -, -, hpos⟩ := exists_word_of_match h
  have hlen := List.length_pos_of_ne_nil hne
  omega

theorem pos_keep (s : Place α) (c : α) (after : List α) :
    (⟨c :: s.before, after⟩ : Place α).pos = s.pos + 1 := rfl

/-- The matches come one after another. -/
theorem pos_of_mem_replaced {m : Place α × Place α} (h : m ∈ replaced word p s) :
    s.pos ≤ m.1.pos ∧ m.1.pos < m.2.pos := by
  induction s using scan_induction word p with
  | hit s e he ih =>
    have hlt := pos_lt_of_match he
    rw [replaced_of_match he] at h
    rcases List.mem_cons.mp h with rfl | h
    · exact ⟨Nat.le_refl _, hlt⟩
    · have hm := ih h
      exact ⟨by omega, hm.2⟩
  | stop s hnone hs =>
    rw [replaced_of_nil hnone hs] at h
    cases h
  | keep s c after hnone hs ih =>
    rw [replaced_of_cons hnone hs] at h
    have hm := ih h
    rw [pos_keep] at hm
    exact ⟨by omega, hm.2⟩

theorem spared_of_match {n len : Nat} (h : (ends word p.expr s).head? = some e) :
    Spared word p s n len ↔ ¬ Meets (s, e) n len ∧ Spared word p e n len := by
  unfold Spared
  rw [replaced_of_match h, List.forall_mem_cons]

theorem spared_of_cons {n len : Nat} {c : α} {after : List α}
    (h : (ends word p.expr s).head? = none) (hs : s.after = c :: after) :
    Spared word p s n len ↔ Spared word p ⟨c :: s.before, after⟩ n len := by
  unfold Spared
  rw [replaced_of_cons h hs]

/-! ## A stretch that is spared -/

/-- A stretch that the scan is at, or past. -/
theorem subFrom_reaches_here {n len : Nat} {t : List α} (hs : s.after = t) (hn : n ≤ s.pos)
    (h : Spared word p s n len) :
    subFrom word p repl s =
        written word p repl n s ++ subFrom word p repl ⟨[].reverse ++ s.before, t⟩ ∧
      Spared word p ⟨[].reverse ++ s.before, t⟩ n len := by
  have hplace : (⟨[].reverse ++ s.before, t⟩ : Place α) = s := place_ext rfl hs.symm
  rw [hplace, written_of_le hn]
  exact ⟨rfl, h⟩

/-- A match that ends before a stretch leaves the rest of what is before it. -/
theorem exists_rest_of_match {b t : List α} (he : (ends word p.expr s).head? = some e)
    (hs : s.after = b ++ t) (hle : e.pos ≤ s.pos + b.length) :
    ∃ b', e.after = b' ++ t ∧ s.pos + b.length = e.pos + b'.length ∧
      b'.reverse ++ e.before = b.reverse ++ s.before := by
  obtain ⟨x, -, hx, hxb, hpos⟩ := exists_word_of_match he
  obtain ⟨b', rfl⟩ : x <+: b :=
    List.prefix_of_prefix_length_le ⟨e.after, hx.symm⟩ ⟨t, hs.symm⟩ (by omega)
  refine ⟨b', ?_, ?_, ?_⟩
  · rw [hx, List.append_assoc] at hs
    exact List.append_cancel_left hs
  · rw [List.length_append]
    omega
  · rw [hxb, List.reverse_append, List.append_assoc]

/-- The scan gets to a stretch that it spares. -/
theorem subFrom_reaches {n len : Nat} {b t : List α} (hs : s.after = b ++ t)
    (hn : n = s.pos + b.length) (h : Spared word p s n len) :
    subFrom word p repl s =
        written word p repl n s ++ subFrom word p repl ⟨b.reverse ++ s.before, t⟩ ∧
      Spared word p ⟨b.reverse ++ s.before, t⟩ n len := by
  induction s using scan_induction word p generalizing b with
  | hit s e he ih =>
    cases b with
    | nil => exact subFrom_reaches_here hs (Nat.le_of_eq hn) h
    | cons c b =>
      obtain ⟨hmeets, hrest⟩ := (spared_of_match he).mp h
      have hlt : s.pos < n := by
        rw [List.length_cons] at hn
        omega
      -- the match begins before the stretch, so it ends before it too
      have hle : e.pos ≤ n := by
        unfold Meets at hmeets
        dsimp only at hmeets
        omega
      rw [hn] at hle
      obtain ⟨b', hafter, hlen, hplace⟩ := exists_rest_of_match he hs hle
      obtain ⟨hsub, hspared⟩ := ih hafter (hn.trans hlen) hrest
      rw [hplace] at hsub hspared
      rw [subFrom_of_match he, written_of_match hlt he, hsub, List.append_assoc]
      exact ⟨rfl, hspared⟩
  | stop s hnone hnil =>
    rw [hnil] at hs
    obtain ⟨rfl, rfl⟩ := List.append_eq_nil_iff.mp hs.symm
    exact subFrom_reaches_here hnil (Nat.le_of_eq hn) h
  | keep s c after hnone hcons ih =>
    cases b with
    | nil => exact subFrom_reaches_here hs (Nat.le_of_eq hn) h
    | cons d b =>
      rw [List.length_cons] at hn
      rw [hcons, List.cons_append] at hs
      injection hs with hcd hs
      subst hcd
      obtain ⟨hsub, hspared⟩ := ih hs (by rw [pos_keep]; omega) ((spared_of_cons hnone hcons).mp h)
      have hplace : b.reverse ++ c :: s.before = (c :: b).reverse ++ s.before := by
        rw [List.reverse_cons, List.append_assoc]
        rfl
      rw [hplace] at hsub hspared
      rw [subFrom_of_cons hnone hcons, written_of_cons (by omega) hnone hcons, hsub]
      exact ⟨rfl, hspared⟩

/-- The scan goes over a stretch that it spares. -/
theorem subFrom_passes {w a : List α} (hs : s.after = w ++ a)
    (h : Spared word p s s.pos w.length) :
    subFrom word p repl s = w ++ subFrom word p repl ⟨w.reverse ++ s.before, a⟩ := by
  induction w generalizing s with
  | nil =>
    have hplace : (⟨[].reverse ++ s.before, a⟩ : Place α) = s := place_ext rfl hs.symm
    rw [hplace]
    rfl
  | cons c w ih =>
    cases hfirst : (ends word p.expr s).head? with
    | some e =>
      have hmeets : Meets (s, e) s.pos (c :: w).length := by
        refine ⟨?_, pos_lt_of_match hfirst⟩
        show s.pos < s.pos + (c :: w).length
        rw [List.length_cons]
        omega
      exact absurd hmeets ((spared_of_match hfirst).mp h).1
    | none =>
      have hcons : s.after = c :: (w ++ a) := hs
      have hrest : Spared word p ⟨c :: s.before, w ++ a⟩ (s.pos + 1) w.length := by
        intro m hm hmeets
        refine (spared_of_cons hfirst hcons).mp h m hm ⟨?_, ?_⟩
        · have hstart := hmeets.1
          rw [List.length_cons]
          omega
        · have hstop := hmeets.2
          omega
      rw [subFrom_of_cons hfirst hcons, ih rfl hrest, List.reverse_cons, List.append_assoc]
      rfl

/-- **Around a stretch that is spared**: what was before it is written before it, what was after it
    after it. -/
theorem subFrom_of_spared {b w a : List α} (hs : s.after = b ++ (w ++ a))
    (h : Spared word p s (s.pos + b.length) w.length) :
    subFrom word p repl s = written word p repl (s.pos + b.length) s ++
      (w ++ subFrom word p repl ⟨w.reverse ++ (b.reverse ++ s.before), a⟩) := by
  obtain ⟨hsub, hspared⟩ := @subFrom_reaches _ _ _ repl _ _ _ _ _ hs rfl h
  have hpos : s.pos + b.length = (⟨b.reverse ++ s.before, w ++ a⟩ : Place α).pos := by
    unfold Place.pos
    rw [List.length_append, List.length_reverse]
    exact Nat.add_comm _ _
  rw [hpos] at hspared
  rw [hsub, subFrom_passes rfl hspared]

/-! ## A stretch that is left -/

/-- A word at the beginning of the result that shares no character with what matches are replaced by
    was there before. -/
theorem spared_of_prefix {w y : List α} (hrepl : repl ≠ []) (hw : ∀ c ∈ w, c ∉ repl)
    (h : subFrom word p repl s = w ++ y) :
    ∃ a, s.after = w ++ a ∧ Spared word p s s.pos w.length ∧
      y = subFrom word p repl ⟨w.reverse ++ s.before, a⟩ := by
  induction w generalizing s with
  | nil =>
    refine ⟨s.after, rfl, ?_, h.symm⟩
    intro m hm hmeets
    have hstart := (pos_of_mem_replaced hm).1
    have hend := hmeets.1
    rw [List.length_nil] at hend
    omega
  | cons c w ih =>
    obtain ⟨hc, hrest⟩ := List.forall_mem_cons.mp hw
    cases hfirst : (ends word p.expr s).head? with
    | some e =>
      rw [subFrom_of_match hfirst] at h
      cases repl with
      | nil => exact absurd rfl hrepl
      | cons d repl =>
        injection h with hdc _
        exact absurd (hdc ▸ List.mem_cons_self) hc
    | none =>
      cases hs : s.after with
      | nil =>
        rw [subFrom_of_nil hs] at h
        cases h
      | cons d after =>
        rw [subFrom_of_cons hfirst hs] at h
        injection h with hdc h
        subst hdc
        obtain ⟨a, ha, hspared, hy⟩ := ih hrest h
        refine ⟨a, ?_, ?_, ?_⟩
        · rw [show after = w ++ a from ha]
          rfl
        · refine (spared_of_cons hfirst hs).mpr ?_
          intro m hm hmeets
          have hm' := pos_of_mem_replaced hm
          rw [pos_keep] at hspared hm'
          rw [List.length_cons] at hmeets
          refine hspared m hm ⟨?_, ?_⟩
          · have hstart := hmeets.1
            omega
          · omega
        · rw [hy, List.reverse_cons, List.append_assoc]
          rfl

/-- A word that shares no character with a replacement does not begin in it. -/
theorem exists_append_of_append {u v x w y : List α} (hne : w ≠ []) (hw : ∀ c ∈ w, c ∉ u)
    (h : u ++ v = x ++ (w ++ y)) : ∃ x', x = u ++ x' ∧ v = x' ++ (w ++ y) := by
  rcases List.append_eq_append_iff.mp h with ⟨x', hx, hrest⟩ | ⟨z, hz, hrest⟩
  · exact ⟨x', hx, hrest⟩
  · cases z with
    | nil =>
      rw [List.append_nil] at hz
      exact ⟨[], by rw [hz, List.append_nil], hrest.symm⟩
    | cons d z =>
      cases w with
      | nil => exact absurd rfl hne
      | cons c w =>
        injection hrest with hcd _
        have hd : d ∈ u := by
          rw [hz]
          exact List.mem_append_right _ List.mem_cons_self
        exact absurd (hcd ▸ hd) (hw c List.mem_cons_self)

/-- **What is left was spared.** -/
theorem spared_of_subFrom {x w y : List α} (hrepl : repl ≠ []) (hne : w ≠ [])
    (hw : ∀ c ∈ w, c ∉ repl) (h : subFrom word p repl s = x ++ (w ++ y)) :
    ∃ b a, s.after = b ++ (w ++ a) ∧ Spared word p s (s.pos + b.length) w.length ∧
      x = written word p repl (s.pos + b.length) s ∧
      y = subFrom word p repl ⟨w.reverse ++ (b.reverse ++ s.before), a⟩ := by
  induction s using scan_induction word p generalizing x with
  | hit s e he ih =>
    rw [subFrom_of_match he] at h
    obtain ⟨x', rfl, hrest⟩ := exists_append_of_append hne hw h
    obtain ⟨b, a, hafter, hspared, hx', hy⟩ := ih hrest
    obtain ⟨v, hv, hv', hvb, hpos⟩ := exists_word_of_match he
    have hn : s.pos + (v ++ b).length = e.pos + b.length := by
      rw [List.length_append]
      omega
    have hlt := pos_lt_of_match he
    refine ⟨v ++ b, a, ?_, ?_, ?_, ?_⟩
    · rw [hv', hafter, List.append_assoc]
    · rw [hn]
      refine (spared_of_match he).mpr ⟨?_, hspared⟩
      intro hmeets
      have hstop : e.pos + b.length < e.pos := hmeets.2
      omega
    · rw [hn, written_of_match (by omega) he, ← hx']
    · rw [hy, hvb, List.reverse_append, List.append_assoc]
  | stop s hnone hnil =>
    rw [subFrom_of_nil hnil] at h
    have hwy := (List.append_eq_nil_iff.mp h.symm).2
    exact absurd (List.append_eq_nil_iff.mp hwy).1 hne
  | keep s c after hnone hcons ih =>
    cases x with
    | nil =>
      obtain ⟨a, ha, hspared, hy⟩ := spared_of_prefix hrepl hw h
      exact ⟨[], a, ha, hspared, (written_of_le (Nat.le_refl _)).symm, hy⟩
    | cons d x =>
      rw [subFrom_of_cons hnone hcons] at h
      injection h with hcd h
      subst hcd
      obtain ⟨b, a, hafter, hspared, hx, hy⟩ := ih h
      have hn : s.pos + (c :: b).length = s.pos + 1 + b.length := by
        rw [List.length_cons]
        omega
      rw [pos_keep] at hspared hx
      refine ⟨c :: b, a, ?_, ?_, ?_, ?_⟩
      · rw [hcons, show after = b ++ (w ++ a) from hafter]
        rfl
      · rw [hn]
        exact (spared_of_cons hnone hcons).mpr hspared
      · rw [hn, written_of_cons (by omega) hnone hcons, ← hx]
      · rw [hy, List.reverse_cons, List.append_assoc]
        rfl

/-! ## Rules that are applied one after another -/

/-- One of the rules takes a character of `w`, which stands between `b` and `a`: it replaces a match
    that meets `w` in what the rules before it have left. -/
def Taken (word : α → Bool) : List (Rule α) → List α → List α → List α → Prop
  | [], _, _, _ => False
  | r :: rules, b, w, a =>
      (∃ m ∈ replaced word r.pattern ⟨[], b ++ (w ++ a)⟩, Meets m b.length w.length) ∨
        Taken word rules
          (written word r.pattern r.marker.text b.length ⟨[], b ++ (w ++ a)⟩) w
          (subFrom word r.pattern r.marker.text ⟨w.reverse ++ b.reverse, a⟩)

theorem not_taken_cons_iff {r : Rule α} {rules : List (Rule α)} {b w a : List α} :
    ¬ Taken word (r :: rules) b w a ↔
      Spared word r.pattern ⟨[], b ++ (w ++ a)⟩ b.length w.length ∧
        ¬ Taken word rules
          (written word r.pattern r.marker.text b.length ⟨[], b ++ (w ++ a)⟩) w
          (subFrom word r.pattern r.marker.text ⟨w.reverse ++ b.reverse, a⟩) := by
  rw [Taken, not_or, not_exists]
  refine and_congr_left fun _ => forall_congr' fun m => ?_
  exact not_and

/-- **What survives all the rules**: a word stands in the result if it stands somewhere in the text
    where no rule takes a character of it. -/
theorem infix_applyAll_iff {rules : List (Rule α)} {w text : List α} (hne : w ≠ [])
    (hw : ∀ r ∈ rules, ∀ c ∈ w, c ∉ r.marker.text) :
    w <:+: applyAll word rules text ↔
      ∃ b a, text = b ++ (w ++ a) ∧ ¬ Taken word rules b w a := by
  induction rules generalizing text with
  | nil =>
    constructor
    · rintro ⟨b, a, h⟩
      rw [List.append_assoc] at h
      exact ⟨b, a, h.symm, id⟩
    · rintro ⟨b, a, rfl, -⟩
      exact ⟨b, a, List.append_assoc ..⟩
  | cons r rules ih =>
    obtain ⟨hr, hrules⟩ := List.forall_mem_cons.mp hw
    have hmarker : r.marker.text ≠ [] := List.cons_ne_nil _ _
    have hzero : ∀ b : List α, (⟨[], text⟩ : Place α).pos + b.length = b.length :=
      fun b => Nat.zero_add _
    have hrev : ∀ b : List α, w.reverse ++ (b.reverse ++ (⟨[], text⟩ : Place α).before) =
        w.reverse ++ b.reverse := fun b => by rw [List.append_nil]
    change w <:+: applyAll word rules (sub word r.pattern r.marker.text text) ↔ _
    rw [ih hrules]
    constructor
    · rintro ⟨x, y, hsub, hnot⟩
      obtain ⟨b, a, htext, hspared, hx, hy⟩ :=
        spared_of_subFrom hmarker hne hr hsub
      have htext : text = b ++ (w ++ a) := htext
      rw [hzero] at hspared hx
      rw [hrev] at hy
      refine ⟨b, a, htext, not_taken_cons_iff.mpr ?_⟩
      rw [← htext, ← hx, ← hy]
      exact ⟨hspared, hnot⟩
    · rintro ⟨b, a, htext, hnot⟩
      obtain ⟨hspared, hrest⟩ := not_taken_cons_iff.mp hnot
      rw [← htext] at hspared hrest
      refine ⟨_, _, ?_, hrest⟩
      have hsub := @subFrom_of_spared _ word r.pattern r.marker.text ⟨[], text⟩ b w a htext
      rw [hzero, hrev] at hsub
      exact hsub hspared

end RefundOps.Substitution
