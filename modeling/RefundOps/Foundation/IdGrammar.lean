import RefundOps.Foundation.Envelope
import RefundOps.Lib.PatternLanguage

/-!
# The grammar of identifiers

What agent ids, tenant ids, event types and schema versions are documented to look like, written
out without patterns: a small letter and then up to sixty-two characters of a class, segments joined
by dots, three numbers. All of it is ASCII, with one place where the patterns are wider: `\d` is any
decimal digit there is. So a number is over a set of digits here, the ten of ASCII in the grammar
and all of them in what the patterns say.

**`validators_accept_grammar_iff`** settles what the validators accept. The patterns are the grammar
over the wider digits; `$` lets a newline through at the end. A validator is right about a string
exactly if the string is not a word followed by a newline, and has no digit of another script in it
where it would otherwise be accepted.
-/

set_option autoImplicit false

namespace RefundOps

open Pattern (Matches OneOf IsLowercase IsAsciiDigit IsForeignDigit IsDecimal IsWordChar az word decimal many
  matches_mul matches_many)
open RegularExpression (char star)

/-! ## The grammar -/

/-- A small letter, then 1 to 62 characters of a class. -/
def IdentGrammar (follows : Char → Prop) (l : List Char) : Prop :=
  ∃ c rest, l = c :: rest ∧ IsLowercase c ∧ 1 ≤ rest.length ∧ rest.length ≤ 62 ∧
    ∀ d ∈ rest, follows d

def AgentIdGrammar : List Char → Prop := IdentGrammar fun c => IsWordChar c ∨ c = '.'

def TenantIdGrammar : List Char → Prop := IdentGrammar IsWordChar

/-- A small letter, then characters of the class. -/
def IsSegment (l : List Char) : Prop :=
  ∃ c rest, l = c :: rest ∧ IsLowercase c ∧ ∀ d ∈ rest, IsWordChar d

/-- One digit or more. -/
def IsNumber (digit : Char → Prop) (l : List Char) : Prop := l ≠ [] ∧ ∀ c ∈ l, digit c

/-- Two segments or more, joined by dots, then `.v` and a number. -/
def EventTypeGrammar (digit : Char → Prop) (l : List Char) : Prop :=
  ∃ (segments : List (List Char)) (version : List Char),
    2 ≤ segments.length ∧ (∀ s ∈ segments, IsSegment s) ∧ IsNumber digit version ∧
    l = ['.'].intercalate segments ++ ['.', 'v'] ++ version

/-- Three numbers, joined by dots. -/
def SemverGrammar (digit : Char → Prop) (l : List Char) : Prop :=
  ∃ major minor patch, IsNumber digit major ∧ IsNumber digit minor ∧ IsNumber digit patch ∧
    l = ['.'].intercalate [major, minor, patch]

/-! ## The patterns are the grammar -/

theorem matches_ident {p : RegularExpression Pattern.Letter} {follows : Char → Prop}
    (hp : OneOf p follows) {l : List Char} :
    Matches (az * (p * Pattern.upTo p 61)) l ↔ IdentGrammar follows l := by
  rw [OneOf.az.mul]
  refine exists_congr fun c => ?_
  constructor
  · intro h
    obtain ⟨t, hl, hc, ht⟩ := h
    obtain ⟨d, u, rfl, hd, hu⟩ := hp.mul.mp ht
    obtain ⟨hlen, hall⟩ := (hp.upTo 61).mp hu
    refine ⟨d :: u, hl, hc, ?_, ?_, List.forall_mem_cons.mpr ⟨hd, hall⟩⟩
    · exact Nat.succ_le_succ (Nat.zero_le _)
    · exact Nat.succ_le_succ hlen
  · intro h
    obtain ⟨rest, hl, hc, hpos, hlen, hall⟩ := h
    refine ⟨rest, hl, hc, ?_⟩
    cases rest with
    | nil => exact absurd hpos (Nat.not_succ_le_zero 0)
    | cons d u =>
      obtain ⟨hd, hu⟩ := List.forall_mem_cons.mp hall
      exact hp.mul.mpr ⟨d, u, rfl, hd, (hp.upTo 61).mpr ⟨Nat.le_of_succ_le_succ hlen, hu⟩⟩

theorem matches_agentId {l : List Char} :
    Matches IdPattern.agentId.expr l ↔ AgentIdGrammar l :=
  matches_ident (OneOf.word.add OneOf.dot)

theorem matches_tenantId {l : List Char} :
    Matches IdPattern.tenantId.expr l ↔ TenantIdGrammar l := matches_ident OneOf.word

theorem matches_number {l : List Char} : Matches (many decimal) l ↔ IsNumber IsDecimal l :=
  OneOf.decimal.many

theorem matches_semver {l : List Char} :
    Matches IdPattern.semver.expr l ↔ SemverGrammar IsDecimal l := by
  unfold IdPattern.semver
  constructor
  · intro h
    obtain ⟨x, patch, rfl, hx, hpatch⟩ := matches_mul.mp h
    obtain ⟨y, dot, rfl, hy, hdot⟩ := matches_mul.mp hx
    obtain ⟨z, minor, rfl, hz, hminor⟩ := matches_mul.mp hy
    obtain ⟨major, dot', rfl, hmajor, hdot'⟩ := matches_mul.mp hz
    obtain ⟨_, rfl, rfl⟩ := (OneOf.dot _).mp hdot
    obtain ⟨_, rfl, rfl⟩ := (OneOf.dot _).mp hdot'
    refine ⟨major, minor, patch, matches_number.mp hmajor, matches_number.mp hminor,
      matches_number.mp hpatch, ?_⟩
    simp [List.intercalate]
  · intro h
    obtain ⟨major, minor, patch, hmajor, hminor, hpatch, rfl⟩ := h
    have hdot : Matches (char .dot) ['.'] := (OneOf.dot _).mpr ⟨'.', rfl, rfl⟩
    refine matches_mul.mpr ⟨major ++ ['.'] ++ minor ++ ['.'], patch, ?_, ?_,
      matches_number.mpr hpatch⟩
    · simp [List.intercalate]
    · refine matches_mul.mpr ⟨_, _, rfl, ?_, hdot⟩
      refine matches_mul.mpr ⟨_, _, rfl, ?_, matches_number.mpr hminor⟩
      exact matches_mul.mpr ⟨_, _, rfl, matches_number.mpr hmajor, hdot⟩

theorem matches_segment {l : List Char} : Matches (az * star word) l ↔ IsSegment l := by
  rw [OneOf.az.mul]
  refine exists_congr fun c => exists_congr fun t => ?_
  rw [OneOf.word.star]

theorem matches_dotSegment {l : List Char} :
    Matches (char .dot * az * star word) l ↔ ∃ s, l = '.' :: s ∧ IsSegment s := by
  constructor
  · intro h
    obtain ⟨x, y, rfl, hx, hy⟩ := matches_mul.mp h
    obtain ⟨_, t, rfl, rfl, ht⟩ := OneOf.dot.mul.mp hx
    exact ⟨t ++ y, rfl, matches_segment.mp (matches_mul.mpr ⟨t, y, rfl, ht, hy⟩)⟩
  · intro h
    obtain ⟨s, rfl, hs⟩ := h
    obtain ⟨x, y, rfl, hx, hy⟩ := matches_mul.mp (matches_segment.mpr hs)
    exact matches_mul.mpr ⟨'.' :: x, y, rfl, OneOf.dot.mul.mpr ⟨'.', x, rfl, rfl, hx⟩, hy⟩

theorem intercalate_dot (s : List Char) (more : List (List Char)) :
    ['.'].intercalate (s :: more) = s ++ (more.map ('.' :: ·)).flatten := by
  induction more generalizing s with
  | nil => simp [List.intercalate]
  | cons t more ih =>
    have hstep : ['.'].intercalate (s :: t :: more) = s ++ ['.'] ++ ['.'].intercalate (t :: more) := by
      simp [List.intercalate]
    rw [hstep, ih, List.map_cons, List.flatten_cons, List.append_assoc]
    rfl

/-- Dotted pieces are segments with a dot in front. -/
theorem exists_segments {pieces : List (List Char)}
    (h : ∀ x ∈ pieces, ∃ s, x = '.' :: s ∧ IsSegment s) :
    ∃ segments : List (List Char),
      pieces = segments.map ('.' :: ·) ∧ ∀ s ∈ segments, IsSegment s := by
  induction pieces with
  | nil => exact ⟨[], rfl, List.forall_mem_nil _⟩
  | cons x pieces ih =>
    obtain ⟨hx, hrest⟩ := List.forall_mem_cons.mp h
    obtain ⟨s, rfl, hs⟩ := hx
    obtain ⟨segments, rfl, hall⟩ := ih hrest
    exact ⟨s :: segments, rfl, List.forall_mem_cons.mpr ⟨hs, hall⟩⟩

theorem matches_dotSegments {l : List Char} :
    Matches (many (char .dot * az * star word)) l ↔
      ∃ segments : List (List Char), segments ≠ [] ∧ (∀ s ∈ segments, IsSegment s) ∧
        l = (segments.map ('.' :: ·)).flatten := by
  rw [matches_many]
  constructor
  · intro h
    obtain ⟨x, M, rfl, hx, hM⟩ := h
    have hall : ∀ y ∈ x :: M, ∃ s, y = '.' :: s ∧ IsSegment s := by
      intro y hy
      rcases List.mem_cons.mp hy with rfl | hy
      · exact matches_dotSegment.mp hx
      · exact matches_dotSegment.mp (hM y hy)
    obtain ⟨segments, hseg, hs⟩ := exists_segments hall
    refine ⟨segments, ?_, hs, ?_⟩
    · intro hnil
      rw [hnil] at hseg
      cases hseg
    · rw [← hseg, List.flatten_cons]
  · intro h
    obtain ⟨segments, hne, hs, rfl⟩ := h
    cases segments with
    | nil => exact absurd rfl hne
    | cons s more =>
      obtain ⟨hs, hmore⟩ := List.forall_mem_cons.mp hs
      refine ⟨'.' :: s, more.map ('.' :: ·), rfl, matches_dotSegment.mpr ⟨s, rfl, hs⟩, ?_⟩
      intro y hy
      obtain ⟨t, ht, rfl⟩ := List.mem_map.mp hy
      exact matches_dotSegment.mpr ⟨t, rfl, hmore t ht⟩

theorem matches_eventType {l : List Char} :
    Matches IdPattern.eventType.expr l ↔ EventTypeGrammar IsDecimal l := by
  unfold IdPattern.eventType
  constructor
  · intro h
    obtain ⟨x, version, rfl, hx, hversion⟩ := matches_mul.mp h
    obtain ⟨y, letter, rfl, hy, hletter⟩ := matches_mul.mp hx
    obtain ⟨z, dot, rfl, hz, hdot⟩ := matches_mul.mp hy
    obtain ⟨first, rest, rfl, hfirst, hrest⟩ := matches_mul.mp hz
    obtain ⟨_, rfl, rfl⟩ := (OneOf.v _).mp hletter
    obtain ⟨_, rfl, rfl⟩ := (OneOf.dot _).mp hdot
    obtain ⟨more, hne, hmore, rfl⟩ := matches_dotSegments.mp hrest
    refine ⟨first :: more, version, ?_, ?_, matches_number.mp hversion, ?_⟩
    · exact Nat.succ_le_succ (List.length_pos_of_ne_nil hne)
    · exact List.forall_mem_cons.mpr ⟨matches_segment.mp hfirst, hmore⟩
    · rw [intercalate_dot]
      simp only [List.append_assoc, List.cons_append, List.nil_append]
  · intro h
    obtain ⟨segments, version, hlen, hseg, hversion, rfl⟩ := h
    cases segments with
    | nil => exact absurd hlen (by decide)
    | cons first more =>
      obtain ⟨hfirst, hmore⟩ := List.forall_mem_cons.mp hseg
      have hne : more ≠ [] := List.ne_nil_of_length_pos (Nat.le_of_succ_le_succ hlen)
      have hhead : Matches (az * star word * many (char .dot * az * star word))
          (['.'].intercalate (first :: more)) :=
        matches_mul.mpr ⟨first, _, intercalate_dot first more, matches_segment.mpr hfirst,
          matches_dotSegments.mpr ⟨more, hne, hmore, rfl⟩⟩
      refine matches_mul.mpr ⟨_, version, rfl, ?_, matches_number.mpr hversion⟩
      refine matches_mul.mpr ⟨['.'].intercalate (first :: more) ++ ['.'], ['v'], ?_, ?_,
        (OneOf.v _).mpr ⟨'v', rfl, rfl⟩⟩
      · rw [List.append_assoc]
        rfl
      · exact matches_mul.mpr ⟨_, ['.'], rfl, hhead, (OneOf.dot _).mpr ⟨'.', rfl, rfl⟩⟩

/-! ## The characters of a word -/

theorem IdentGrammar.forall_chars {follows P : Char → Prop} {l : List Char}
    (h : IdentGrammar follows l) (hlower : ∀ c, IsLowercase c → P c) (hrest : ∀ c, follows c → P c) :
    ∀ c ∈ l, P c := by
  obtain ⟨c, rest, rfl, hc, _, _, hall⟩ := h
  exact List.forall_mem_cons.mpr ⟨hlower c hc, fun d hd => hrest d (hall d hd)⟩

theorem IsSegment.forall_chars {P : Char → Prop} {l : List Char} (h : IsSegment l)
    (hword : ∀ c, IsWordChar c → P c) : ∀ c ∈ l, P c := by
  obtain ⟨c, rest, rfl, hc, hall⟩ := h
  exact List.forall_mem_cons.mpr ⟨hword c (Or.inl hc), fun d hd => hword d (hall d hd)⟩

theorem forall_mem_intercalate {P : Char → Prop} {words : List (List Char)} (hdot : P '.')
    (h : ∀ w ∈ words, ∀ c ∈ w, P c) : ∀ c ∈ ['.'].intercalate words, P c := by
  cases words with
  | nil => exact List.forall_mem_nil _
  | cons w more =>
    obtain ⟨hw, hmore⟩ := List.forall_mem_cons.mp h
    intro c hc
    rw [intercalate_dot, List.mem_append] at hc
    rcases hc with hc | hc
    · exact hw c hc
    · obtain ⟨x, hx, hcx⟩ := List.mem_flatten.mp hc
      obtain ⟨t, ht, rfl⟩ := List.mem_map.mp hx
      rcases List.mem_cons.mp hcx with rfl | hct
      · exact hdot
      · exact hmore t ht c hct

theorem EventTypeGrammar.forall_chars {digit P : Char → Prop} {l : List Char}
    (h : EventTypeGrammar digit l) (hword : ∀ c, IsWordChar c → P c) (hdot : P '.')
    (hdigit : ∀ c, digit c → P c) : ∀ c ∈ l, P c := by
  obtain ⟨segments, version, _, hseg, hversion, rfl⟩ := h
  have hv : P 'v' := hword 'v' (by decide)
  have hhead := forall_mem_intercalate hdot fun s hs => (hseg s hs).forall_chars hword
  have hmid : ∀ c ∈ ['.', 'v'], P c :=
    List.forall_mem_cons.mpr ⟨hdot, List.forall_mem_singleton.mpr hv⟩
  refine List.forall_mem_append.mpr ⟨List.forall_mem_append.mpr ⟨hhead, hmid⟩, ?_⟩
  exact fun c hc => hdigit c (hversion.2 c hc)

theorem SemverGrammar.forall_chars {digit P : Char → Prop} {l : List Char}
    (h : SemverGrammar digit l) (hdot : P '.') (hdigit : ∀ c, digit c → P c) : ∀ c ∈ l, P c := by
  obtain ⟨major, minor, patch, hmajor, hminor, hpatch, rfl⟩ := h
  apply forall_mem_intercalate hdot
  refine List.forall_mem_cons.mpr ⟨?_, List.forall_mem_cons.mpr ⟨?_, List.forall_mem_singleton.mpr ?_⟩⟩
  · exact fun c hc => hdigit c (hmajor.2 c hc)
  · exact fun c hc => hdigit c (hminor.2 c hc)
  · exact fun c hc => hdigit c (hpatch.2 c hc)

/-! A word over one set of digits is a word over another that has the digits in it. -/

theorem EventTypeGrammar.mono {D E : Char → Prop} {l : List Char} (h : EventTypeGrammar D l)
    (hDE : ∀ c ∈ l, D c → E c) : EventTypeGrammar E l := by
  obtain ⟨segments, version, hlen, hseg, ⟨hne, hall⟩, rfl⟩ := h
  refine ⟨segments, version, hlen, hseg, ⟨hne, fun c hc => ?_⟩, rfl⟩
  exact hDE c (List.mem_append_right _ hc) (hall c hc)

theorem SemverGrammar.mono {D E : Char → Prop} {l : List Char} (h : SemverGrammar D l)
    (hDE : ∀ c ∈ l, D c → E c) : SemverGrammar E l := by
  obtain ⟨major, minor, patch, ⟨hne1, h1⟩, ⟨hne2, h2⟩, ⟨hne3, h3⟩, rfl⟩ := h
  have hmem : ∀ c, c ∈ major ∨ c ∈ minor ∨ c ∈ patch →
      c ∈ ['.'].intercalate [major, minor, patch] := by
    intro c hc
    simp only [intercalate_dot, List.map_cons, List.map_nil, List.flatten_cons, List.flatten_nil,
      List.mem_append, List.mem_cons, List.not_mem_nil, or_false]
    rcases hc with hc | hc | hc
    · exact Or.inl hc
    · exact Or.inr (Or.inl (Or.inr hc))
    · exact Or.inr (Or.inr (Or.inr hc))
  refine ⟨major, minor, patch, ⟨hne1, fun c hc => ?_⟩, ⟨hne2, fun c hc => ?_⟩,
    ⟨hne3, fun c hc => ?_⟩, rfl⟩
  · exact hDE c (hmem c (Or.inl hc)) (h1 c hc)
  · exact hDE c (hmem c (Or.inr (Or.inl hc))) (h2 c hc)
  · exact hDE c (hmem c (Or.inr (Or.inr hc))) (h3 c hc)

/-! ## What the validators accept -/

/-- `s` is a word of `G` with a newline behind it. -/
def NewlineAfter (G : List Char → Prop) (s : String) : Prop :=
  ∃ l, G l ∧ s.toList = l ++ ['\n']

/-- `s` is a word of `G` with a digit of another script in it. -/
def HasForeignDigit (G : List Char → Prop) (s : String) : Prop :=
  G s.toList ∧ ∃ c ∈ s.toList, IsForeignDigit c

/-- Neither a newline nor a digit of another script. -/
def IsPlain (c : Char) : Prop := c ≠ '\n' ∧ ¬ IsForeignDigit c

theorem isPlain_of_lt {c : Char} (hne : c ≠ '\n') (h : c.toNat < 0x660) : IsPlain c :=
  ⟨hne, fun hf => absurd hf.past_ascii (Nat.not_le_of_lt h)⟩

theorem isPlain_dot : IsPlain '.' := isPlain_of_lt (by decide) (by decide)

theorem isPlain_of_isAsciiDigit {c : Char} (h : IsAsciiDigit c) : IsPlain c := by
  unfold IsAsciiDigit at h
  simp only [Pattern.char_le_iff_toNat, Char.reduceToNat] at h
  refine isPlain_of_lt ?_ (by omega)
  rintro rfl
  exact absurd h (by decide)

theorem isPlain_of_isWordChar {c : Char} (h : IsWordChar c) : IsPlain c := by
  rcases h with h | h | rfl | rfl
  · unfold IsLowercase at h
    simp only [Pattern.char_le_iff_toNat, Char.reduceToNat] at h
    refine isPlain_of_lt ?_ (by omega)
    rintro rfl
    exact absurd h (by decide)
  · exact isPlain_of_isAsciiDigit h
  · exact isPlain_of_lt (by decide) (by decide)
  · exact isPlain_of_lt (by decide) (by decide)

theorem ne_newline_of_isDecimal {c : Char} (h : IsDecimal c) : c ≠ '\n' := by
  rcases h with h | h
  · exact (isPlain_of_isAsciiDigit h).1
  · rintro rfl
    exact absurd h.past_ascii (by decide)

section Accepts

variable {p : IdPattern} {G A : List Char → Prop}

/-- **What a pattern with the words `G` gets wrong about the grammar `A`**, where `A` is the words of
    `G` without a foreign digit and no word has a newline. -/
theorem accepts_iff_grammar_iff (hp : ∀ l, Matches p.expr l ↔ G l)
    (hA : ∀ l, A l ↔ G l ∧ ∀ c ∈ l, ¬ IsForeignDigit c) (hnl : ∀ l, G l → ∀ c ∈ l, c ≠ '\n')
    (s : String) :
    (p.accepts s = true ↔ A s.toList) ↔ ¬ NewlineAfter G s ∧ ¬ HasForeignDigit G s := by
  have haccepts : p.accepts s = true ↔ G s.toList ∨ NewlineAfter G s := by
    unfold IdPattern.accepts NewlineAfter
    rw [Pattern.isMatch_iff]
    constructor
    · intro h
      obtain ⟨l, hl, hs | hs⟩ := h
      · rw [hs]
        exact Or.inl ((hp l).mp hl)
      · exact Or.inr ⟨l, (hp l).mp hl, hs⟩
    · intro h
      rcases h with h | ⟨l, hl, hs⟩
      · exact ⟨s.toList, (hp _).mpr h, Or.inl rfl⟩
      · exact ⟨l, (hp l).mpr hl, Or.inr hs⟩
  have hnot : NewlineAfter G s → ¬ G s.toList := by
    intro h hG
    obtain ⟨l, _, hs⟩ := h
    refine hnl _ hG '\n' ?_ rfl
    rw [hs]
    exact List.mem_append_right _ (List.mem_singleton_self _)
  rw [haccepts, hA]
  constructor
  · intro h
    refine ⟨fun hn => hnot hn (h.mp (Or.inr hn)).1, fun hf => ?_⟩
    obtain ⟨hG, c, hc, hfc⟩ := hf
    exact (h.mp (Or.inl hG)).2 c hc hfc
  · intro h
    obtain ⟨hn, hf⟩ := h
    constructor
    · intro hacc
      rcases hacc with hG | hnew
      · exact ⟨hG, fun c hc hfc => hf ⟨hG, c, hc, hfc⟩⟩
      · exact absurd hnew hn
    · intro hG
      exact Or.inl hG.1

end Accepts

theorem agentId_plain {l : List Char} (h : AgentIdGrammar l) : ∀ c ∈ l, IsPlain c := by
  refine h.forall_chars (fun c hc => isPlain_of_isWordChar (Or.inl hc)) fun c hc => ?_
  rcases hc with hc | rfl
  · exact isPlain_of_isWordChar hc
  · exact isPlain_dot

theorem tenantId_plain {l : List Char} (h : TenantIdGrammar l) : ∀ c ∈ l, IsPlain c :=
  h.forall_chars (fun _ hc => isPlain_of_isWordChar (Or.inl hc)) fun _ => isPlain_of_isWordChar

theorem eventType_ascii_iff {l : List Char} :
    EventTypeGrammar IsAsciiDigit l ↔
      EventTypeGrammar IsDecimal l ∧ ∀ c ∈ l, ¬ IsForeignDigit c := by
  constructor
  · intro h
    refine ⟨h.mono fun c _ hc => Or.inl hc, ?_⟩
    exact h.forall_chars (fun c hc => (isPlain_of_isWordChar hc).2) isPlain_dot.2
      fun c hc => (isPlain_of_isAsciiDigit hc).2
  · intro h
    exact h.1.mono fun c hc hd => hd.resolve_right (h.2 c hc)

theorem semver_ascii_iff {l : List Char} :
    SemverGrammar IsAsciiDigit l ↔ SemverGrammar IsDecimal l ∧ ∀ c ∈ l, ¬ IsForeignDigit c := by
  constructor
  · intro h
    refine ⟨h.mono fun c _ hc => Or.inl hc, ?_⟩
    exact h.forall_chars isPlain_dot.2 fun c hc => (isPlain_of_isAsciiDigit hc).2
  · intro h
    exact h.1.mono fun c hc hd => hd.resolve_right (h.2 c hc)

/-- A pattern without `\d` is right about every string that does not end in a newline too many. -/
theorem accepts_iff_plain_grammar_iff {p : IdPattern} {G : List Char → Prop}
    (hp : ∀ l, Matches p.expr l ↔ G l) (hG : ∀ l, G l → ∀ c ∈ l, IsPlain c) (s : String) :
    (p.accepts s = true ↔ G s.toList) ↔ ¬ NewlineAfter G s := by
  have hplain : ∀ l, G l ↔ G l ∧ ∀ c ∈ l, ¬ IsForeignDigit c :=
    fun l => ⟨fun h => ⟨h, fun c hc => (hG l h c hc).2⟩, And.left⟩
  rw [accepts_iff_grammar_iff hp hplain fun l h c hc => (hG l h c hc).1]
  constructor
  · exact And.left
  · intro h
    refine ⟨h, fun hf => ?_⟩
    obtain ⟨hs, c, hc, hfc⟩ := hf
    exact (hG _ hs c hc).2 hfc

/-- **The validators accept the grammar**, but for a newline at the end and, where there are numbers,
    for the digits of other scripts; and these are exactly the strings they get wrong. -/
theorem validators_accept_grammar_iff (s : String) :
    ((validateAgentId s = [] ↔ AgentIdGrammar s.toList) ↔ ¬ NewlineAfter AgentIdGrammar s) ∧
    ((validateTenantId s = [] ↔ TenantIdGrammar s.toList) ↔ ¬ NewlineAfter TenantIdGrammar s) ∧
    ((validateEventType s = [] ↔ EventTypeGrammar IsAsciiDigit s.toList) ↔
      ¬ NewlineAfter (EventTypeGrammar IsDecimal) s ∧
      ¬ HasForeignDigit (EventTypeGrammar IsDecimal) s) ∧
    ((validateSchemaVersion s = [] ↔ SemverGrammar IsAsciiDigit s.toList) ↔
      ¬ NewlineAfter (SemverGrammar IsDecimal) s ∧
      ¬ HasForeignDigit (SemverGrammar IsDecimal) s) := by
  unfold validateAgentId validateTenantId validateEventType validateSchemaVersion
  simp only [checkPattern_eq_nil_iff]
  refine ⟨?_, ?_, ?_, ?_⟩
  · exact accepts_iff_plain_grammar_iff (fun _ => matches_agentId) (fun _ => agentId_plain) s
  · exact accepts_iff_plain_grammar_iff (fun _ => matches_tenantId) (fun _ => tenantId_plain) s
  · refine accepts_iff_grammar_iff (fun _ => matches_eventType) (fun _ => eventType_ascii_iff) ?_ s
    intro l h
    exact h.forall_chars (fun c hc => (isPlain_of_isWordChar hc).1) isPlain_dot.1
      fun c => ne_newline_of_isDecimal
  · refine accepts_iff_grammar_iff (fun _ => matches_semver) (fun _ => semver_ascii_iff) ?_ s
    intro l h
    exact h.forall_chars isPlain_dot.1 fun c => ne_newline_of_isDecimal

theorem not_mem_newline {l : List Char} (h : ∀ c ∈ l, IsPlain c) : '\n' ∉ l :=
  fun hmem => (h '\n' hmem).1 rfl

/-- An id with a newline behind it passes for an id, and a version in the digits of another script
    for a version. -/
theorem newline_and_foreign_digit_accepted :
    (validateAgentId "test.agent\n" = [] ∧ ¬ AgentIdGrammar "test.agent\n".toList) ∧
    (validateTenantId "poc\n" = [] ∧ ¬ TenantIdGrammar "poc\n".toList) ∧
    (validateEventType "agent.sample.v٣" = [] ∧
      ¬ EventTypeGrammar IsAsciiDigit "agent.sample.v٣".toList) ∧
    (validateSchemaVersion "1.0.٣" = [] ∧ ¬ SemverGrammar IsAsciiDigit "1.0.٣".toList) := by
  have hforeign : IsForeignDigit '٣' := ⟨0x660, by decide, by decide, by decide⟩
  refine ⟨⟨by decide +kernel, fun h => ?_⟩, ⟨by decide +kernel, fun h => ?_⟩,
    ⟨by decide +kernel, fun h => ?_⟩, ⟨by decide +kernel, fun h => ?_⟩⟩
  · exact not_mem_newline (agentId_plain h) (by decide +kernel)
  · exact not_mem_newline (tenantId_plain h) (by decide +kernel)
  · exact (eventType_ascii_iff.mp h).2 '٣' (by decide +kernel) hforeign
  · exact (semver_ascii_iff.mp h).2 '٣' (by decide +kernel) hforeign

end RefundOps
