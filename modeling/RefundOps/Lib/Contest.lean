import RefundOps.Lib.Survivors

/-!
# Matches that contend for characters

Which of two matches that overlap is replaced depends on the order of the rules, and in one rule on
where they begin. The later one has to do with what the earlier one leaves. This is about what can be
told from the text as it was before any rule.

A stretch is `Caught` if it has a character in common with a match that nothing takes away: whatever
an earlier rule, or the same rule from no later a place, could take of the characters of that match
has a character in common with the stretch as well. It is `Touched` if a word that some rule could
match has a character in common with it. What is caught is taken (`Caught.taken`), and what is taken
is touched (`Taken.touched`). In between are stretches whose matches are contended for.

That a rule could match a word is `Fits`: it says nothing of what stands around the word, which an
earlier rule may have replaced.
-/

set_option autoImplicit false

namespace RefundOps.Substitution

variable {α : Type} {word : α → Bool} {p : Pattern α} {repl : List α} {s : Place α}

/-! ## Stretches of a text -/

/-- Two stretches, by where they begin and how long they are, have a character in common. -/
def Overlap (n len n' len' : Nat) : Prop := n < n' + len' ∧ n' < n + len

/-- The pattern matches `v` between some texts. -/
def Fits (word : α → Bool) (p : Pattern α) (v : List α) : Prop := ∃ b a, p.expr.Matches word b v a

/-- A match that is replaced, as a stretch of the text. -/
theorem exists_stretch_of_mem_replaced {m : Place α × Place α} (h : m ∈ replaced word p s) :
    ∃ x v y, s.after = x ++ (v ++ y) ∧ p.expr.Matches word (x.reverse ++ s.before) v y ∧
      m.1.pos = s.pos + x.length ∧ m.2.pos = s.pos + x.length + v.length := by
  induction s using scan_induction word p with
  | hit s e he ih =>
    rw [replaced_of_match he] at h
    obtain ⟨u, hu, hub, hmatch⟩ := mem_ends_iff.mp (List.mem_of_mem_head? he)
    have hpos : e.pos = s.pos + u.length := by
      unfold Place.pos
      rw [hub, List.length_append, List.length_reverse]
      exact Nat.add_comm _ _
    rcases List.mem_cons.mp h with rfl | h
    · exact ⟨[], u, e.after, hu, hmatch, rfl, hpos⟩
    · obtain ⟨x, v, y, hafter, hv, hstart, hstop⟩ := ih h
      refine ⟨u ++ x, v, y, ?_, ?_, ?_, ?_⟩
      · rw [hu, hafter, List.append_assoc]
      · rw [List.reverse_append, List.append_assoc, ← hub]
        exact hv
      · rw [hstart, hpos, List.length_append, Nat.add_assoc]
      · rw [hstop, hpos, List.length_append, Nat.add_assoc s.pos]
  | stop s hnone hs =>
    rw [replaced_of_nil hnone hs] at h
    cases h
  | keep s c after hnone hs ih =>
    rw [replaced_of_cons hnone hs] at h
    obtain ⟨x, v, y, hafter, hv, hstart, hstop⟩ := ih h
    have hafter : after = x ++ (v ++ y) := hafter
    rw [pos_keep] at hstart hstop
    refine ⟨c :: x, v, y, ?_, ?_, ?_, ?_⟩
    · rw [hs, hafter]
      rfl
    · rw [List.reverse_cons, List.append_assoc]
      exact hv
    · rw [hstart, List.length_cons]
      omega
    · rw [hstop, List.length_cons]
      omega

/-- Where there is a match, one is replaced that begins there or goes over the place. -/
theorem exists_replaced_of_matches {x v y : List α} (hs : s.after = x ++ (v ++ y))
    (h : p.expr.Matches word (x.reverse ++ s.before) v y) :
    ∃ m ∈ replaced word p s, m.1.pos ≤ s.pos + x.length ∧ s.pos + x.length < m.2.pos := by
  induction s using scan_induction word p generalizing x with
  | hit s e he ih =>
    rw [replaced_of_match he]
    by_cases hlt : s.pos + x.length < e.pos
    · exact ⟨(s, e), List.mem_cons_self, Nat.le_add_right _ _, hlt⟩
    · obtain ⟨x', hafter, hlen, hplace⟩ := exists_rest_of_match he hs (Nat.not_lt.mp hlt)
      rw [← hplace] at h
      obtain ⟨m, hm, hstart, hstop⟩ := ih hafter h
      rw [hlen]
      exact ⟨m, List.mem_cons_of_mem _ hm, hstart, hstop⟩
  | stop s hnone hnil =>
    rw [hnil] at hs
    have hvy := (List.append_eq_nil_iff.mp hs.symm).2
    exact absurd (List.append_eq_nil_iff.mp hvy).1 (Pattern.ne_nil h)
  | keep s c after hnone hcons ih =>
    cases x with
    | nil =>
      -- the scan would have found it here
      have hmem : (⟨v.reverse ++ s.before, y⟩ : Place α) ∈ ends word p.expr s :=
        mem_ends_iff.mpr ⟨v, hs, rfl, h⟩
      rw [List.head?_eq_none_iff.mp hnone] at hmem
      cases hmem
    | cons d x =>
      rw [hcons] at hs
      injection hs with hcd hs
      subst hcd
      rw [List.reverse_cons, List.append_assoc] at h
      obtain ⟨m, hm, hstart, hstop⟩ := ih hs h
      rw [pos_keep] at hstart hstop
      rw [replaced_of_cons hnone hcons, List.length_cons]
      exact ⟨m, hm, by omega, by omega⟩

/-! ## Where a stretch goes -/

theorem written_of_nil {n : Nat} (h : (ends word p.expr s).head? = none) (hs : s.after = []) :
    written word p repl n s = [] := by
  rw [written]
  split
  · rfl
  · split
    · rename_i e he
      rw [h] at he
      cases he
    · split
      · rfl
      · rename_i c after hcons
        rw [hs] at hcons
        cases hcons

theorem length_written_mono {n n' : Nat} (h : n ≤ n') :
    (written word p repl n s).length ≤ (written word p repl n' s).length := by
  induction s using scan_induction word p with
  | hit s e he ih =>
    by_cases hn : n ≤ s.pos
    · rw [written_of_le hn]
      exact Nat.zero_le _
    · rw [written_of_match (by omega) he, written_of_match (by omega) he, List.length_append,
        List.length_append]
      omega
  | stop s hnone hs =>
    rw [written_of_nil hnone hs]
    exact Nat.zero_le _
  | keep s c after hnone hs ih =>
    by_cases hn : n ≤ s.pos
    · rw [written_of_le hn]
      exact Nat.zero_le _
    · rw [written_of_cons (by omega) hnone hs, written_of_cons (by omega) hnone hs,
        List.length_cons, List.length_cons]
      omega

section Text

variable {text x v y x' v' y' : List α}

variable (repl) in
/-- A stretch that is spared, in the result. -/
theorem sub_of_spared (hs : text = x ++ (v ++ y))
    (h : Spared word p ⟨[], text⟩ x.length v.length) :
    sub word p repl text = written word p repl x.length ⟨[], text⟩ ++
      (v ++ subFrom word p repl ⟨v.reverse ++ x.reverse, y⟩) := by
  have hzero : (⟨[], text⟩ : Place α).pos + x.length = x.length := Nat.zero_add _
  rw [← hzero] at h
  have hsub := @subFrom_of_spared _ word p repl ⟨[], text⟩ x v y hs h
  rw [hzero, List.append_nil] at hsub
  exact hsub

/-- A part of a stretch that is spared. -/
theorem Spared.part {n len k : Nat} (h : Spared word p s n len) (hk : k ≤ len) :
    Spared word p s n k := by
  intro m hm hmeets
  have hstart := hmeets.1
  exact h m hm ⟨by omega, hmeets.2⟩

variable (repl) in
/-- Up to the end of a stretch that is spared, the stretch is written. -/
theorem written_append (hs : text = x ++ (v ++ y))
    (h : Spared word p ⟨[], text⟩ x.length v.length) :
    written word p repl (x.length + v.length) ⟨[], text⟩ =
      written word p repl x.length ⟨[], text⟩ ++ v := by
  cases v with
  | nil => exact (List.append_nil _).symm
  | cons c v =>
    have hend : Spared word p ⟨[], text⟩ (x ++ c :: v).length ([] : List α).length := by
      intro m hm hmeets
      obtain ⟨hstart, hstop⟩ := hmeets
      rw [List.length_append] at hstart hstop
      rw [List.length_nil] at hstart
      exact h m hm ⟨by omega, by omega⟩
    have hassoc : text = (x ++ c :: v) ++ ([] ++ y) := by
      rw [hs, List.append_assoc]
      rfl
    have hsub := sub_of_spared repl hassoc hend
    rw [sub_of_spared repl hs h, List.nil_append, List.reverse_append,
      List.reverse_nil, List.nil_append, ← List.append_assoc, List.length_append] at hsub
    exact (List.append_cancel_right hsub).symm

variable (repl) in
theorem length_written_of_spared {k : Nat} (hs : text = x ++ (v ++ y))
    (h : Spared word p ⟨[], text⟩ x.length v.length) (hk : k ≤ v.length) :
    (written word p repl (x.length + k) ⟨[], text⟩).length =
      (written word p repl x.length ⟨[], text⟩).length + k := by
  have hlen : (v.take k).length = k := List.length_take_of_le hk
  have htake : text = x ++ (v.take k ++ (v.drop k ++ y)) := by
    rw [← List.append_assoc (v.take k), List.take_append_drop]
    exact hs
  have hpart : Spared word p ⟨[], text⟩ x.length (v.take k).length := by
    rw [hlen]
    exact h.part hk
  have happend := congrArg List.length (written_append repl htake hpart)
  rw [List.length_append, hlen] at happend
  exact happend

variable (repl) in
/-- Two stretches that overlap and are spared are moved alike. -/
theorem moved_alike (hs : text = x ++ (v ++ y)) (hs' : text = x' ++ (v' ++ y'))
    (h : Spared word p ⟨[], text⟩ x.length v.length)
    (h' : Spared word p ⟨[], text⟩ x'.length v'.length)
    (ho : Overlap x.length v.length x'.length v'.length) :
    (written word p repl x.length ⟨[], text⟩).length + x'.length =
      (written word p repl x'.length ⟨[], text⟩).length + x.length := by
  obtain ⟨hlt, hlt'⟩ := ho
  rcases Nat.le_total x.length x'.length with hle | hle
  · have hlen := length_written_of_spared repl hs h
      (show x'.length - x.length ≤ v.length by omega)
    rw [Nat.add_sub_cancel' hle] at hlen
    omega
  · have hlen := length_written_of_spared repl hs' h'
      (show x.length - x'.length ≤ v'.length by omega)
    rw [Nat.add_sub_cancel' hle] at hlen
    omega

/-- Stretches that are spared overlap in the result as they do in the text. -/
theorem overlap_written_iff (hs : text = x ++ (v ++ y)) (hs' : text = x' ++ (v' ++ y'))
    (h : Spared word p ⟨[], text⟩ x.length v.length)
    (h' : Spared word p ⟨[], text⟩ x'.length v'.length) :
    Overlap (written word p repl x.length ⟨[], text⟩).length v.length
        (written word p repl x'.length ⟨[], text⟩).length v'.length ↔
      Overlap x.length v.length x'.length v'.length := by
  constructor
  · rintro ⟨hlt, hlt'⟩
    have hend := length_written_of_spared repl hs h (Nat.le_refl _)
    have hend' := length_written_of_spared repl hs' h' (Nat.le_refl _)
    constructor
    · by_contra hle
      have hmono : (written word p repl (x'.length + v'.length) ⟨[], text⟩).length ≤
          (written word p repl x.length ⟨[], text⟩).length := length_written_mono (Nat.not_lt.mp hle)
      omega
    · by_contra hle
      have hmono : (written word p repl (x.length + v.length) ⟨[], text⟩).length ≤
          (written word p repl x'.length ⟨[], text⟩).length := length_written_mono (Nat.not_lt.mp hle)
      omega
  · intro ho
    have halike := moved_alike repl hs hs' h h' ho
    obtain ⟨hlt, hlt'⟩ := ho
    exact ⟨by omega, by omega⟩

/-- A word of the result that has no character of a replacement in it comes from the text. -/
theorem exists_of_sub {x₁ y₁ : List α} (hrepl : repl ≠ []) (hne : v ≠ []) (hv : ∀ c ∈ v, c ∉ repl)
    (h : sub word p repl text = x₁ ++ (v ++ y₁)) :
    ∃ x y, text = x ++ (v ++ y) ∧ Spared word p ⟨[], text⟩ x.length v.length ∧
      x₁ = written word p repl x.length ⟨[], text⟩ := by
  obtain ⟨x, y, htext, hspared, hx, -⟩ := spared_of_subFrom hrepl hne hv h
  have hzero : (⟨[], text⟩ : Place α).pos + x.length = x.length := Nat.zero_add _
  rw [hzero] at hspared hx
  exact ⟨x, y, htext, hspared, hx⟩

end Text

/-! ## What stands around a stretch -/

section Edges

variable {m : Marker α} {b b' a a' v x t : List α}

/-- A match that begins and ends in word characters is one between other surroundings too, if they
    put no word character where there was none. -/
theorem Regex.Matches.transfer_of_edges {q : Regex α} (hfirst : v.head?.any word = true)
    (hlast : v.reverse.head?.any word = true)
    (hb : b'.head?.any word = true → b.head?.any word = true)
    (ha : a'.head?.any word = true → a.head?.any word = true)
    (h : q.Matches word b v a) : q.Matches word b' v a' := by
  have hne : v ≠ [] := by
    rintro rfl
    cases hfirst
  refine h.transfer ?_
  rintro - u z rfl hat
  unfold atBoundary at hat ⊢
  rcases List.eq_nil_or_concat u with rfl | ⟨u, c, rfl⟩
  · -- where the match begins
    rw [List.nil_append] at hfirst hne
    rw [List.head?_append_of_ne_nil _ hne, hfirst, List.reverse_nil, List.nil_append] at hat ⊢
    cases hb' : b'.head?.any word with
    | false => rfl
    | true =>
      rw [hb hb'] at hat
      exact hat
  · cases z with
    | nil =>
      -- where it ends
      rw [List.append_nil] at hlast hne
      rw [List.head?_append_of_ne_nil _ (mt List.reverse_eq_nil_iff.mp hne), hlast,
        List.nil_append] at hat ⊢
      cases ha' : a'.head?.any word with
      | false => rfl
      | true =>
        rw [ha ha'] at hat
        exact hat
    | cons d z =>
      rw [List.concat_eq_append, List.reverse_append] at hat ⊢
      exact hat

theorem Marker.text_ne_nil (m : Marker α) : m.text ≠ [] := List.cons_ne_nil _ _

theorem written_here : written word p repl (s.pos + ([] : List α).length) s = [] :=
  written_of_le (Nat.le_refl _)

/-- Before a stretch there is a word character only if there was one. -/
theorem head?_written_append {ob : List α} (hright : word m.right = false)
    (hob : ob.head?.any word = true → s.before.head?.any word = true) (hs : s.after = x ++ t)
    (h : ((written word p m.text (s.pos + x.length) s).reverse ++ ob).head?.any word = true) :
    (x.reverse ++ s.before).head?.any word = true := by
  have hmarker : ∀ l : List α, (m.text.reverse ++ l).head?.any word = true → False := by
    intro l hl
    have htext : (m.text.reverse ++ l).head? = some m.right := by simp [Marker.text]
    rw [htext, Option.any_some, hright] at hl
    cases hl
  induction s using scan_induction word p generalizing x ob with
  | hit s e he ih =>
    cases x with
    | nil =>
      rw [written_here] at h
      exact hob h
    | cons c x =>
      rw [written_of_match (by rw [List.length_cons]; omega) he, List.reverse_append,
        List.append_assoc] at h
      by_cases hle : e.pos ≤ s.pos + (c :: x).length
      · obtain ⟨x', hafter, hlen, hplace⟩ := exists_rest_of_match he hs hle
        rw [hlen] at h
        rw [← hplace]
        exact ih (fun hl => (hmarker _ hl).elim) hafter h
      · rw [written_of_le (by omega)] at h
        exact (hmarker _ h).elim
  | stop s hnone hnil =>
    rw [hnil] at hs
    obtain ⟨rfl, rfl⟩ := List.append_eq_nil_iff.mp hs.symm
    rw [written_here] at h
    exact hob h
  | keep s c after hnone hcons ih =>
    cases x with
    | nil =>
      rw [written_here] at h
      exact hob h
    | cons d x =>
      rw [hcons] at hs
      injection hs with hcd hs
      subst hcd
      have hpos : s.pos + (c :: x).length = (⟨c :: s.before, after⟩ : Place α).pos + x.length := by
        rw [pos_keep, List.length_cons]
        omega
      rw [written_of_cons (by rw [List.length_cons]; omega) hnone hcons, List.reverse_cons,
        List.append_assoc, hpos] at h
      rw [List.reverse_cons, List.append_assoc]
      exact @ih x (c :: ob) (fun hl => hl) hs h

/-- After a stretch there is a word character only if there was one. -/
theorem head?_subFrom_any (hleft : word m.left = false)
    (h : (subFrom word p m.text s).head?.any word = true) : s.after.head?.any word = true := by
  cases hfirst : (ends word p.expr s).head? with
  | some e =>
    have htext : (m.text ++ subFrom word p m.text e).head? = some m.left := rfl
    rw [subFrom_of_match hfirst, htext, Option.any_some, hleft] at h
    cases h
  | none =>
    rw [head?_subFrom hfirst] at h
    exact h

/-- **A match that is spared is a match in the result**, if it begins and ends in word
    characters. -/
theorem matches_of_spared {q : Regex α} {text y : List α} (hleft : word m.left = false)
    (hright : word m.right = false) (hfirst : v.head?.any word = true)
    (hlast : v.reverse.head?.any word = true) (hs : text = x ++ (v ++ y))
    (h : q.Matches word x.reverse v y) :
    q.Matches word (written word p m.text x.length ⟨[], text⟩).reverse v
      (subFrom word p m.text ⟨v.reverse ++ x.reverse, y⟩) := by
  refine h.transfer_of_edges hfirst hlast ?_ (head?_subFrom_any hleft)
  intro hb
  have hzero : x.length = (⟨[], text⟩ : Place α).pos + x.length := (Nat.zero_add _).symm
  have happ := @head?_written_append _ _ p ⟨[], text⟩ m x (v ++ y) [] hright (fun hl => hl) hs
  rw [List.append_nil, List.append_nil, ← hzero] at happ
  exact happ hb

end Edges

/-! ## What is caught, and what is touched -/

/-- `r`, after the rules `earlier`, matches `v` between `x` and `y`, which has a character in common
    with a stretch; and so has whatever they could take of that match before it. -/
structure CaughtAt (word : α → Bool) (earlier : List (Rule α)) (r : Rule α) (text : List α)
    (n len : Nat) (x v y : List α) : Prop where
  text_eq : text = x ++ (v ++ y)
  isMatch : r.pattern.expr.Matches word x.reverse v y
  meets : Overlap x.length v.length n len
  edges : earlier = [] ∨ v.head?.any word = true ∧ v.reverse.head?.any word = true
  uncontested : ∀ x' v' y', text = x' ++ (v' ++ y') →
    Overlap x'.length v'.length x.length v.length →
    (∃ r' ∈ earlier, Fits word r'.pattern v') ∨ x'.length ≤ x.length ∧ Fits word r.pattern v' →
      Overlap x'.length v'.length n len

/-- A match that nothing takes away has one of the `len` characters from position `n` on. -/
def Caught (word : α → Bool) (rules : List (Rule α)) (text : List α) (n len : Nat) : Prop :=
  ∃ earlier r later, rules = earlier ++ r :: later ∧
    ∃ x v y, CaughtAt word earlier r text n len x v y

/-- A word that one of the rules could match has one of them. -/
def Touched (word : α → Bool) (rules : List (Rule α)) (text : List α) (n len : Nat) : Prop :=
  ∃ r ∈ rules, ∃ x v y, text = x ++ (v ++ y) ∧ Fits word r.pattern v ∧
    Overlap x.length v.length n len

/-- No later rule matches a character of a marker, and its signs are no word characters. -/
structure Apart (word : α → Bool) (rules : List (Rule α)) : Prop where
  later : rules.Pairwise fun r r' => ∀ c ∈ r.marker.text, r'.pattern.expr.rejects c = true
  signs : ∀ r ∈ rules, word r.marker.left = false ∧ word r.marker.right = false

section Rules

variable {r r' : Rule α} {earlier rules : List (Rule α)} {b w a text x v y : List α} {n len : Nat}

theorem Apart.tail (h : Apart word (r :: rules)) : Apart word rules :=
  ⟨(List.pairwise_cons.mp h.later).2, fun r' hr' => h.signs r' (List.mem_cons_of_mem r hr')⟩

theorem Apart.not_mem (h : Apart word (r :: rules)) (hr' : r' ∈ rules)
    (hv : Fits word r'.pattern v) : ∀ c ∈ v, c ∉ r.marker.text := by
  obtain ⟨b, a, hmatch⟩ := hv
  intro c hc hmem
  exact hmatch.not_mem ((List.pairwise_cons.mp h.later).1 r' hr' c hmem) hc

theorem Fits.ne_nil (h : Fits word p v) : v ≠ [] := by
  obtain ⟨b, a, hmatch⟩ := h
  exact Pattern.ne_nil hmatch

/-- A stretch that is not spared has a character in common with one that is replaced. -/
theorem exists_overlap_of_meets {m : Place α × Place α} (hm : m ∈ replaced word p ⟨[], text⟩)
    (hmeets : Meets m n len) :
    ∃ x v y, text = x ++ (v ++ y) ∧ Fits word p v ∧ Overlap x.length v.length n len := by
  obtain ⟨x, v, y, htext, hv, hstart, hstop⟩ := exists_stretch_of_mem_replaced hm
  have hzero : (⟨[], text⟩ : Place α).pos = 0 := rfl
  obtain ⟨hlt, hlt'⟩ := hmeets
  exact ⟨x, v, y, htext, ⟨_, _, hv⟩, by omega, by omega⟩

/-- The first rule replaces a match that the stretch is caught by, or one before it that has a
    character of the stretch as well. -/
theorem CaughtAt.meets_of_nil (h : CaughtAt word [] r text n len x v y) :
    ∃ m ∈ replaced word r.pattern ⟨[], text⟩, Meets m n len := by
  have hmatch := h.isMatch
  rw [← List.append_nil x.reverse] at hmatch
  obtain ⟨m, hm, hle, hlt⟩ := exists_replaced_of_matches (s := ⟨[], text⟩) h.text_eq hmatch
  obtain ⟨x', v', y', htext, hv', hstart, hstop⟩ := exists_stretch_of_mem_replaced hm
  have hzero : (⟨[], text⟩ : Place α).pos = 0 := rfl
  have hv := List.length_pos_of_ne_nil (Pattern.ne_nil h.isMatch)
  have hmeets := h.uncontested x' v' y' htext ⟨by omega, by omega⟩
    (.inr ⟨by omega, _, _, hv'⟩)
  refine ⟨m, hm, ?_, ?_⟩
  · rw [hstart, hzero, Nat.zero_add]
    exact hmeets.1
  · rw [hstop, hzero, Nat.zero_add]
    exact hmeets.2

/-- **A rule that spares the stretch leaves it caught.** -/
theorem CaughtAt.step (hapart : Apart word (r' :: (earlier ++ r :: rules)))
    (htext : text = b ++ (w ++ a)) (hspared : Spared word r'.pattern ⟨[], text⟩ b.length w.length)
    (h : CaughtAt word (r' :: earlier) r text b.length w.length x v y) :
    CaughtAt word earlier r (sub word r'.pattern r'.marker.text text)
      (written word r'.pattern r'.marker.text b.length ⟨[], text⟩).length w.length
      (written word r'.pattern r'.marker.text x.length ⟨[], text⟩) v
      (subFrom word r'.pattern r'.marker.text ⟨v.reverse ++ x.reverse, y⟩) := by
  obtain ⟨hfirst, hlast⟩ := h.edges.resolve_left (List.cons_ne_nil _ _)
  obtain ⟨hleft, hright⟩ := hapart.signs r' List.mem_cons_self
  -- what is replaced and overlaps the match would meet the stretch
  have hmatch : Spared word r'.pattern ⟨[], text⟩ x.length v.length := by
    intro m hm hmeets
    obtain ⟨x', v', y', htext', hv', hstart, hstop⟩ := exists_stretch_of_mem_replaced hm
    have hzero : (⟨[], text⟩ : Place α).pos = 0 := rfl
    obtain ⟨hlt, hlt'⟩ := hmeets
    have ho := h.uncontested x' v' y' htext' ⟨by omega, by omega⟩
      (.inl ⟨r', List.mem_cons_self, _, _, hv'⟩)
    obtain ⟨ho₁, ho₂⟩ := ho
    exact hspared m hm ⟨by omega, by omega⟩
  refine ⟨sub_of_spared _ h.text_eq hmatch,
    matches_of_spared hleft hright hfirst hlast h.text_eq h.isMatch,
    (overlap_written_iff h.text_eq htext hmatch hspared).mpr h.meets, .inr ⟨hfirst, hlast⟩, ?_⟩
  intro x₁ v' y₁ hsub ho hfits
  obtain ⟨r₁, hr₁, hv'⟩ : ∃ r₁ ∈ earlier ++ r :: rules, Fits word r₁.pattern v' := by
    rcases hfits with ⟨r₁, hr₁, hv'⟩ | ⟨-, hv'⟩
    · exact ⟨r₁, List.mem_append_left _ hr₁, hv'⟩
    · exact ⟨r, List.mem_append_right _ List.mem_cons_self, hv'⟩
  obtain ⟨x', y', htext', hspared', rfl⟩ :=
    exists_of_sub r'.marker.text_ne_nil hv'.ne_nil (hapart.not_mem hr₁ hv') hsub
  have ho' := (overlap_written_iff htext' h.text_eq hspared' hmatch).mp ho
  refine (overlap_written_iff htext' htext hspared' hspared).mpr
    (h.uncontested x' v' y' htext' ho' ?_)
  rcases hfits with ⟨r₁, hr₁, hv'⟩ | ⟨hle, hv'⟩
  · exact .inl ⟨r₁, List.mem_cons_of_mem _ hr₁, hv'⟩
  · have halike := moved_alike r'.marker.text htext' h.text_eq hspared' hmatch ho'
    exact .inr ⟨by omega, hv'⟩

/-- **What is caught is taken.** -/
theorem Caught.taken (hapart : Apart word rules)
    (h : Caught word rules (b ++ (w ++ a)) b.length w.length) : Taken word rules b w a := by
  obtain ⟨earlier, r, later, rfl, x, v, y, h⟩ := h
  induction earlier generalizing b a x y with
  | nil => exact .inl h.meets_of_nil
  | cons r' earlier ih =>
    by_cases hspared : Spared word r'.pattern ⟨[], b ++ (w ++ a)⟩ b.length w.length
    · have hstep := h.step hapart rfl hspared
      rw [sub_of_spared _ rfl hspared] at hstep
      exact .inr (ih hapart.tail _ _ hstep)
    · unfold Spared at hspared
      simp only [not_forall, not_not] at hspared
      obtain ⟨m, hm, hmeets⟩ := hspared
      exact .inl ⟨m, hm, hmeets⟩

/-- **What is taken is touched.** -/
theorem Taken.touched (hapart : Apart word rules) (h : Taken word rules b w a) :
    Touched word rules (b ++ (w ++ a)) b.length w.length := by
  induction rules generalizing b a with
  | nil => exact h.elim
  | cons r rules ih =>
    by_cases hspared : Spared word r.pattern ⟨[], b ++ (w ++ a)⟩ b.length w.length
    · rcases h with ⟨m, hm, hmeets⟩ | h
      · exact absurd hmeets (hspared m hm)
      · obtain ⟨r', hr', x₁, v, y₁, hsub, hv, ho⟩ := ih hapart.tail h
        rw [← sub_of_spared _ rfl hspared] at hsub
        obtain ⟨x, y, htext, hv', rfl⟩ :=
          exists_of_sub r.marker.text_ne_nil hv.ne_nil (hapart.not_mem hr' hv) hsub
        exact ⟨r', List.mem_cons_of_mem r hr', x, v, y, htext, hv,
          (overlap_written_iff htext rfl hv' hspared).mp ho⟩
    · unfold Spared at hspared
      simp only [not_forall, not_not] at hspared
      obtain ⟨m, hm, hmeets⟩ := hspared
      obtain ⟨x, v, y, htext, hv, ho⟩ := exists_overlap_of_meets hm hmeets
      exact ⟨r, List.mem_cons_self, x, v, y, htext, hv, ho⟩

end Rules

end RefundOps.Substitution
