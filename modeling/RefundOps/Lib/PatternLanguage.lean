import RefundOps.Lib.Pattern

/-!
# What a pattern matches, in characters

The patterns are over classes of characters. Read back over characters they describe sets of words
(`Matches`), and each way of making a pattern from smaller ones has its rule here. Most of the
patterns in use are built from ones that match a single character out of some set (`OneOf`), for
which repetitions come down to a bound on the length and a condition on every character.

**`isMatch_iff`** is what the rest of the development uses: a string is accepted exactly if it is a
word of the pattern, or one with a newline behind it.
-/

set_option autoImplicit false

namespace RefundOps.Pattern

open RegularExpression (char star)

variable {p q : RegularExpression Letter} {P Q : Char → Prop} {l : List Char}

/-- `l` is a word of `p`. -/
def Matches (p : RegularExpression Letter) (l : List Char) : Prop := l.map letter ∈ p.matches'

/-! ## The ways to make a pattern -/

theorem matches_one : Matches 1 l ↔ l = [] := by
  unfold Matches
  rw [RegularExpression.matches'_epsilon, Language.mem_one]
  exact List.map_eq_nil_iff

theorem matches_char {a : Letter} : Matches (char a) l ↔ ∃ c, l = [c] ∧ letter c = a := by
  unfold Matches
  rw [RegularExpression.matches'_char]
  constructor
  · intro h
    obtain ⟨c, hc, ha⟩ := List.map_eq_singleton_iff.mp h
    exact ⟨c, hc, ha⟩
  · intro h
    obtain ⟨c, hc, ha⟩ := h
    exact List.map_eq_singleton_iff.mpr ⟨c, hc, ha⟩

theorem matches_add : Matches (p + q) l ↔ Matches p l ∨ Matches q l := by
  unfold Matches
  rw [RegularExpression.matches'_add]
  exact Language.mem_add _ _ _

theorem matches_mul :
    Matches (p * q) l ↔ ∃ x y, l = x ++ y ∧ Matches p x ∧ Matches q y := by
  unfold Matches
  rw [RegularExpression.matches'_mul, Language.mem_mul]
  constructor
  · intro h
    obtain ⟨a, ha, b, hb, hab⟩ := h
    obtain ⟨x, y, hl, hx, hy⟩ := List.map_eq_append_iff.mp hab.symm
    exact ⟨x, y, hl, hx ▸ ha, hy ▸ hb⟩
  · intro h
    obtain ⟨x, y, hl, hx, hy⟩ := h
    refine ⟨x.map letter, hx, y.map letter, hy, ?_⟩
    rw [hl, List.map_append]

/-- A list of words over classes that spell `l` is the image of a list of words that do. -/
theorem exists_pieces {L : List (List Letter)} (h : l.map letter = L.flatten) :
    ∃ M : List (List Char), l = M.flatten ∧ M.map (List.map letter) = L := by
  induction L generalizing l with
  | nil =>
    refine ⟨[], ?_, rfl⟩
    exact List.map_eq_nil_iff.mp h
  | cons w L ih =>
    rw [List.flatten_cons] at h
    obtain ⟨x, y, hl, hx, hy⟩ := List.map_eq_append_iff.mp h
    obtain ⟨M, hM, hL⟩ := ih hy
    refine ⟨x :: M, ?_, ?_⟩
    · rw [hl, hM, List.flatten_cons]
    · rw [List.map_cons, hx, hL]

theorem matches_star :
    Matches (star p) l ↔ ∃ M : List (List Char), l = M.flatten ∧ ∀ x ∈ M, Matches p x := by
  unfold Matches
  rw [RegularExpression.matches'_star, Language.mem_kstar]
  constructor
  · intro h
    obtain ⟨L, hL, hp⟩ := h
    obtain ⟨M, hM, hML⟩ := exists_pieces hL
    refine ⟨M, hM, ?_⟩
    intro x hx
    apply hp
    rw [← hML]
    exact List.mem_map_of_mem hx
  · intro h
    obtain ⟨M, hM, hp⟩ := h
    refine ⟨M.map (List.map letter), ?_, ?_⟩
    · rw [hM, List.map_flatten]
    · intro y hy
      obtain ⟨x, hx, hxy⟩ := List.mem_map.mp hy
      rw [← hxy]
      exact hp x hx

theorem matches_many :
    Matches (many p) l ↔
      ∃ x, ∃ M : List (List Char), l = x ++ M.flatten ∧ Matches p x ∧ ∀ y ∈ M, Matches p y := by
  unfold many
  rw [matches_mul]
  constructor
  · intro h
    obtain ⟨x, y, hl, hx, hy⟩ := h
    obtain ⟨M, hM, hp⟩ := matches_star.mp hy
    exact ⟨x, M, by rw [hl, hM], hx, hp⟩
  · intro h
    obtain ⟨x, M, hl, hx, hp⟩ := h
    exact ⟨x, M.flatten, hl, hx, matches_star.mpr ⟨M, rfl, hp⟩⟩

/-! ## Patterns for one character -/

/-- `p` matches the single characters that `P` holds of. -/
def OneOf (p : RegularExpression Letter) (P : Char → Prop) : Prop :=
  ∀ l, Matches p l ↔ ∃ c, l = [c] ∧ P c

namespace OneOf

theorem char (a : Letter) : OneOf (char a) (fun c => letter c = a) := fun _ => matches_char

theorem add (hp : OneOf p P) (hq : OneOf q Q) : OneOf (p + q) (fun c => P c ∨ Q c) := by
  intro l
  rw [matches_add, hp l, hq l, ← exists_or]
  refine exists_congr fun c => ?_
  exact and_or_left.symm

theorem congr (hp : OneOf p P) (h : ∀ c, P c ↔ Q c) : OneOf p Q := by
  intro l
  rw [hp l]
  exact exists_congr fun c => and_congr_right fun _ => h c

theorem mul (hp : OneOf p P) :
    Matches (p * q) l ↔ ∃ c t, l = c :: t ∧ P c ∧ Matches q t := by
  rw [matches_mul]
  constructor
  · intro h
    obtain ⟨x, y, hl, hx, hy⟩ := h
    obtain ⟨c, rfl, hc⟩ := (hp x).mp hx
    exact ⟨c, y, hl, hc, hy⟩
  · intro h
    obtain ⟨c, t, hl, hc, ht⟩ := h
    exact ⟨[c], t, hl, (hp _).mpr ⟨c, rfl, hc⟩, ht⟩

theorem star (hp : OneOf p P) : Matches (star p) l ↔ ∀ c ∈ l, P c := by
  rw [matches_star]
  constructor
  · intro h c hc
    obtain ⟨M, rfl, hM⟩ := h
    obtain ⟨x, hx, hcx⟩ := List.mem_flatten.mp hc
    obtain ⟨d, rfl, hd⟩ := (hp x).mp (hM x hx)
    rw [List.mem_singleton.mp hcx]
    exact hd
  · intro h
    refine ⟨l.map fun c => [c], (List.flatMap_singleton' l).symm.trans List.flatMap_def, ?_⟩
    intro x hx
    obtain ⟨c, hc, rfl⟩ := List.mem_map.mp hx
    exact (hp _).mpr ⟨c, rfl, h c hc⟩

theorem many (hp : OneOf p P) : Matches (many p) l ↔ l ≠ [] ∧ ∀ c ∈ l, P c := by
  unfold Pattern.many
  rw [hp.mul]
  constructor
  · intro h
    obtain ⟨c, t, rfl, hc, ht⟩ := h
    exact ⟨List.cons_ne_nil _ _, List.forall_mem_cons.mpr ⟨hc, hp.star.mp ht⟩⟩
  · intro h
    cases l with
    | nil => exact absurd rfl h.1
    | cons c t =>
      obtain ⟨hc, ht⟩ := List.forall_mem_cons.mp h.2
      exact ⟨c, t, rfl, hc, hp.star.mpr ht⟩

theorem upTo (hp : OneOf p P) (n : Nat) :
    Matches (upTo p n) l ↔ l.length ≤ n ∧ ∀ c ∈ l, P c := by
  induction n generalizing l with
  | zero =>
    have h0 : Matches (Pattern.upTo p 0) l ↔ l = [] := matches_one
    rw [h0]
    constructor
    · intro h
      rw [h]
      exact ⟨Nat.le_refl _, List.forall_mem_nil _⟩
    · intro h
      exact List.length_eq_zero_iff.mp (Nat.le_zero.mp h.1)
  | succ n ih =>
    have hs : Matches (Pattern.upTo p (n + 1)) l ↔
        l = [] ∨ ∃ c t, l = c :: t ∧ P c ∧ Matches (Pattern.upTo p n) t := by
      change Matches (1 + p * Pattern.upTo p n) l ↔ _
      rw [matches_add, matches_one, hp.mul]
    rw [hs]
    cases l with
    | nil => exact iff_of_true (Or.inl rfl) ⟨Nat.zero_le _, List.forall_mem_nil _⟩
    | cons c t =>
      rw [List.forall_mem_cons, List.length_cons, Nat.succ_le_succ_iff]
      constructor
      · intro h
        rcases h with h | ⟨d, u, hcons, hd, hu⟩
        · cases h
        · cases hcons
          exact ⟨(ih.mp hu).1, hd, (ih.mp hu).2⟩
      · intro h
        exact Or.inr ⟨c, t, rfl, h.2.1, ih.mpr ⟨h.1, h.2.2⟩⟩

end OneOf

/-! ## The classes -/

def IsLowercase (c : Char) : Prop := 'a' ≤ c ∧ c ≤ 'z'

def IsAsciiDigit (c : Char) : Prop := '0' ≤ c ∧ c ≤ '9'

/-- A decimal digit past the ten of ASCII. -/
def IsForeignDigit (c : Char) : Prop := ∃ z ∈ decimalZeros, z ≤ c.toNat ∧ c.toNat ≤ z + 9

/-- What `\d` takes for a digit. -/
def IsDecimal (c : Char) : Prop := IsAsciiDigit c ∨ IsForeignDigit c

/-- `[a-z0-9_-]`. -/
def IsWordChar (c : Char) : Prop := IsLowercase c ∨ IsAsciiDigit c ∨ c = '_' ∨ c = '-'

instance : DecidablePred IsLowercase := fun _ => inferInstanceAs (Decidable (_ ∧ _))

instance : DecidablePred IsAsciiDigit := fun _ => inferInstanceAs (Decidable (_ ∧ _))

instance : DecidablePred IsForeignDigit := fun _ =>
  inferInstanceAs (Decidable (∃ z ∈ decimalZeros, _))

instance : DecidablePred IsDecimal := fun _ => inferInstanceAs (Decidable (_ ∨ _))

instance : DecidablePred IsWordChar := fun _ => inferInstanceAs (Decidable (_ ∨ _ ∨ _ ∨ _))

theorem IsForeignDigit.past_ascii {c : Char} (h : IsForeignDigit c) : 0x660 ≤ c.toNat := by
  obtain ⟨z, hz, hle, _⟩ := h
  have hmin : ∀ z ∈ decimalZeros, 0x660 ≤ z := by decide
  exact (hmin z hz).trans hle

/-! Each class by its code points: the signs are single ones, and past ASCII there are only the
digits of other scripts. -/

theorem char_eq_iff_toNat (c d : Char) : c = d ↔ c.toNat = d.toNat := Char.toNat_inj.symm

theorem char_le_iff_toNat (c d : Char) : c ≤ d ↔ c.toNat ≤ d.toNat := by
  rw [Char.le_def, UInt32.le_iff_toNat_le]
  rfl

theorem foreign_iff_any (c : Char) :
    (decimalZeros.any fun z => z ≤ c.toNat ∧ c.toNat ≤ z + 9) = true ↔ IsForeignDigit c := by
  unfold IsForeignDigit
  rw [List.any_eq_true]
  exact exists_congr fun z => and_congr_right fun _ => decide_eq_true_iff

/-- The characters of each class. -/
def Letter.Denotes (c : Char) : Letter → Prop
  | .v => c = 'v'
  | .lower => IsLowercase c ∧ c ≠ 'v'
  | .digit => IsAsciiDigit c
  | .decimal => IsForeignDigit c
  | .underscore => c = '_'
  | .hyphen => c = '-'
  | .dot => c = '.'
  | .newline => c = '\n'
  | .other => ¬ IsLowercase c ∧ ¬ IsAsciiDigit c ∧ ¬ IsForeignDigit c ∧ c ∉ ['_', '-', '.', '\n']

theorem denotes_letter (c : Char) : (letter c).Denotes c := by
  unfold letter
  split
  · rename_i h
    exact h
  · rename_i hv
    split
    · rename_i h
      exact ⟨h, hv⟩
    · rename_i hlower
      split
      · rename_i h
        exact h
      · rename_i hdigit
        split_ifs with h1 h2 h3 h4 h5
        · exact h1
        · exact h2
        · exact h3
        · exact h4
        · exact (foreign_iff_any c).mp h5
        · refine ⟨hlower, hdigit, fun hf => h5 ((foreign_iff_any c).mpr hf), ?_⟩
          simp only [List.mem_cons, List.not_mem_nil, or_false, not_or]
          exact ⟨h1, h2, h3, h4⟩

/-- No character is in two classes. -/
theorem Letter.Denotes.unique {c : Char} {a b : Letter} (ha : a.Denotes c) (hb : b.Denotes c) :
    a = b := by
  have hpast : IsForeignDigit c → 0x660 ≤ c.toNat := IsForeignDigit.past_ascii
  cases a <;> cases b <;> try rfl
  all_goals
    exfalso
    simp only [Letter.Denotes, IsLowercase, IsAsciiDigit, ne_eq, char_eq_iff_toNat, char_le_iff_toNat,
      Char.reduceToNat, List.mem_cons, List.not_mem_nil] at ha hb
    first
      | omega
      | have := hpast ha; omega
      | have := hpast hb; omega
      | exact ha.2.2.1 hb
      | exact hb.2.2.1 ha

theorem letter_eq_iff {c : Char} {a : Letter} : letter c = a ↔ a.Denotes c := by
  constructor
  · intro h
    rw [← h]
    exact denotes_letter c
  · exact (denotes_letter c).unique

/-! ## The patterns in use -/

theorem OneOf.v : OneOf (RegularExpression.char .v) (· = 'v') :=
  (OneOf.char .v).congr fun _ => letter_eq_iff

theorem OneOf.dot : OneOf (RegularExpression.char .dot) (· = '.') :=
  (OneOf.char .dot).congr fun _ => letter_eq_iff

theorem OneOf.newline : OneOf (RegularExpression.char .newline) (· = '\n') :=
  (OneOf.char .newline).congr fun _ => letter_eq_iff

theorem OneOf.az : OneOf az IsLowercase := by
  refine ((OneOf.char .v).add (OneOf.char .lower)).congr fun c => ?_
  rw [letter_eq_iff, letter_eq_iff]
  constructor
  · intro h
    rcases h with h | h
    · rw [h]
      decide
    · exact h.1
  · intro h
    by_cases hv : c = 'v'
    · exact Or.inl hv
    · exact Or.inr ⟨h, hv⟩

theorem OneOf.word : OneOf word IsWordChar := by
  refine (((OneOf.az.add (OneOf.char .digit)).add (OneOf.char .underscore)).add
    (OneOf.char .hyphen)).congr fun c => ?_
  rw [letter_eq_iff, letter_eq_iff, letter_eq_iff, or_assoc, or_assoc]
  rfl

theorem OneOf.decimal : OneOf decimal IsDecimal := by
  refine ((OneOf.char .digit).add (OneOf.char .decimal)).congr fun c => ?_
  rw [letter_eq_iff, letter_eq_iff]
  rfl

/-- **What `re.match` accepts**: a word of the pattern, or one with a newline behind it. -/
theorem isMatch_iff {s : String} :
    isMatch p s = true ↔ ∃ l, Matches p l ∧ (s.toList = l ∨ s.toList = l ++ ['\n']) := by
  have hend : isMatch p s = true ↔ Matches (p * (1 + RegularExpression.char .newline)) s.toList :=
    RegularExpression.rmatch_iff_matches' _ _
  rw [hend, matches_mul]
  constructor
  · intro h
    obtain ⟨x, y, hs, hx, hy⟩ := h
    refine ⟨x, hx, ?_⟩
    rcases matches_add.mp hy with hy | hy
    · left
      rw [hs, matches_one.mp hy, List.append_nil]
    · obtain ⟨c, hc, hnl⟩ := (OneOf.newline _).mp hy
      right
      rw [hs, hc, hnl]
  · intro h
    obtain ⟨l, hl, hs⟩ := h
    rcases hs with hs | hs
    · refine ⟨l, [], ?_, hl, matches_add.mpr (Or.inl (matches_one.mpr rfl))⟩
      rw [hs, List.append_nil]
    · refine ⟨l, ['\n'], hs, hl, matches_add.mpr (Or.inr ?_)⟩
      exact (OneOf.newline _).mpr ⟨'\n', rfl, rfl⟩

end RefundOps.Pattern
