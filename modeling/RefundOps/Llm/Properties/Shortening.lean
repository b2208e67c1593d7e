import RefundOps.Lib.Contest
import RefundOps.Llm.Audit
import RefundOps.Llm.Redaction

/-!
# Shortened before it is redacted

`build_audit_record` cuts long grounding texts off after 200 characters, and only then takes card
numbers and the like out of them. A card number that the cut falls into is none any more. If there
are separators in it, what is left is not a long run of digits either, and stays in the record.

The same may happen without a cut: an e-mail address whose last label is the first group of a card
number takes that group away, and leaves the others. So of the five substitutions any that is earlier
or further left may have a say. **`digest_hides_cards_of_caught`** goes by the matches in what is kept
of the text, before any substitution: the digest hides a card number if each stretch of it is caught by
a match that no other contends for, and it hides none that nothing could match. The plain case is
`CardsPlain`: no e-mail addresses, and each card number before the cut stands there whole and alone.
-/

set_option autoImplicit false

namespace RefundOps.Llm

open Substitution (Taken Caught Touched Fits Overlap Regex applyAll)

/-! ## Card numbers in a text -/

section Cards

variable (alnum : Char → Bool)

/-- `_PAN_RE` matches `card`, between `before` and `after`. -/
def IsCard (before card after : List Char) : Prop :=
  panExpr.Matches (isWord alnum) before.reverse card after

/-- Twelve characters of the card that stand nowhere in `text` but in it. -/
structure IsFragment (text before card w : List Char) : Prop where
  infix_card : w <:+: card
  length_eq : w.length = 12
  inside : ∀ x y, text = x ++ (w ++ y) →
    before.length ≤ x.length ∧ x.length + w.length ≤ before.length + card.length

/-- None of the card numbers of `text` shows in `shown`. -/
def HidesCards (text shown : List Char) : Prop :=
  ∀ before card after, text = before ++ (card ++ after) → IsCard alnum before card after →
    ∀ w, IsFragment text before card w → ¬ w <:+: shown

/-- The text as `_compact_digest` shortens it. -/
def shorten (text : List Char) : List Char :=
  if text.length > 200 then text.take 200 ++ ['.', '.', '.'] else text

/-- Wherever twelve characters of a card number stand before the cut, one of the substitutions takes
    one of them. -/
def CardsTaken (text : List Char) : Prop :=
  ∀ before card after, text = before ++ (card ++ after) → IsCard alnum before card after →
    ∀ w, IsFragment text before card w → ∀ x y, text = x ++ (w ++ y) →
      (text.length > 200 → x.length + w.length ≤ 200) →
        Taken (isWord alnum) patterns x w ((shorten text).drop (x.length + w.length))

/-- Wherever twelve characters of a card number stand before the cut, a match in what is kept of the
    text has one of them, and is not contended for. -/
def CardsCaught (text : List Char) : Prop :=
  ∀ before card after, text = before ++ (card ++ after) → IsCard alnum before card after →
    ∀ w, IsFragment text before card w → ∀ x y, text = x ++ (w ++ y) →
      (text.length > 200 → x.length + w.length ≤ 200) →
        Caught (isWord alnum) patterns (shorten text) x.length w.length

/-- Wherever they stand before the cut, a word that a pattern could match has one of them. -/
def CardsTouched (text : List Char) : Prop :=
  ∀ before card after, text = before ++ (card ++ after) → IsCard alnum before card after →
    ∀ w, IsFragment text before card w → ∀ x y, text = x ++ (w ++ y) →
      (text.length > 200 → x.length + w.length ≤ 200) →
        Touched (isWord alnum) patterns (shorten text) x.length w.length

/-- No e-mail address is in the first 200 characters, and each card number has less than twelve
    characters there, or is there whole, with no other number running into it. -/
structure CardsPlain (text : List Char) : Prop where
  no_email : '@' ∉ text.take 200
  alone : ∀ before card after, text = before ++ (card ++ after) → IsCard alnum before card after →
    (text.length > 200 ∧ 200 < before.length + 12) ∨
      (text.length > 200 → before.length + card.length ≤ 200) ∧
        ∀ u d c, before = u ++ [d, c] → panExpr.rejects d = true ∨ panExpr.rejects c = true

variable {alnum} {text before card after w : List Char}

/-- Brackets are no word characters. -/
theorem placeholder_signs (name : String) : isWord alnum (placeholder name).left = false ∧
    isWord alnum (placeholder name).right = false := ⟨rfl, rfl⟩

/-- The characters of markers are in no match of a pattern after the first. -/
theorem rejects_marker {r r' : Substitution.Rule Char} (hr : r ∈ patterns) (hr' : r' ∈ patterns.tail) :
    ∀ c ∈ r.marker.text, r'.pattern.expr.rejects c = true := by
  have hall : (patterns.all fun r => patterns.tail.all fun r' => r.marker.text.all fun c =>
      r'.pattern.expr.rejects c) = true := by decide +kernel
  exact List.all_eq_true.mp (List.all_eq_true.mp (List.all_eq_true.mp hall r hr) r' hr')

theorem patterns_apart : Substitution.Apart (isWord alnum) patterns where
  later := List.pairwise_cons.mpr ⟨fun _ hr' => rejects_marker List.mem_cons_self hr',
    List.pairwise_of_forall_mem_list fun _ hr _ hr' => rejects_marker (List.mem_cons_of_mem _ hr) hr'⟩
  signs := by
    intro r hr
    simp only [patterns, List.mem_cons, List.not_mem_nil, or_false] at hr
    rcases hr with rfl | rfl | rfl | rfl | rfl
    · exact placeholder_signs _
    · exact placeholder_signs _
    · exact placeholder_signs _
    · exact placeholder_signs _
    · exact placeholder_signs _

/-! ### What a card number looks like -/

theorem card_length (h : IsCard alnum before card after) : 16 ≤ card.length ∧ card.length ≤ 19 :=
  ⟨h.minLength_le, h.le_maxLength rfl⟩

theorem exists_digit_of_fits {v b a : List Char} (h : panExpr.Matches (isWord alnum) b v a) :
    ∃ c rest, v = c :: rest ∧ Pattern.IsDecimal c := by
  obtain ⟨_, _, rfl, ⟨rfl, -⟩, _, _, rfl, ⟨_, _, rfl, ⟨_, _, rfl, ⟨_, _, rfl,
    ⟨_, _, rfl, ⟨c, rfl, hc⟩, -⟩, -⟩, -⟩, -⟩, -⟩ := h
  exact ⟨c, _, rfl, of_decide_eq_true hc⟩

theorem exists_digit_of_card (h : IsCard alnum before card after) :
    ∃ rest c, card.reverse = c :: rest ∧ Pattern.IsDecimal c := by
  obtain ⟨_, _, rfl, ⟨rfl, -⟩, _, _, rfl, ⟨groups, _, rfl, -, _, _, rfl, ⟨_, _, rfl, ⟨c₁, rfl, -⟩,
    _, _, rfl, ⟨c₂, rfl, -⟩, _, _, rfl, ⟨c₃, rfl, -⟩, _, _, rfl, ⟨c₄, rfl, hc⟩, rfl⟩, rfl⟩, rfl, -⟩ := h
  exact ⟨c₃ :: c₂ :: c₁ :: groups.reverse, c₄, by simp, of_decide_eq_true hc⟩

theorem at_mem_of_email {v b a : List Char} (h : emailExpr.Matches (isWord alnum) b v a) :
    '@' ∈ v := by
  obtain ⟨_, _, rfl, -, _, _, rfl, ⟨c, rfl, hc⟩, -⟩ := h
  obtain rfl := eq_of_beq hc
  simp

theorem panExpr_rejects {c : Char} (hlow : c.toNat < 0x660) (hdigit : ¬ Pattern.IsAsciiDigit c)
    (hdash : c ≠ '-') (hspace : Text.isSpace c = false) : panExpr.rejects c = true := by
  have hdecimal : ¬ Pattern.IsDecimal c := by
    rintro (h | h)
    · exact hdigit h
    · exact absurd h.past_ascii (Nat.not_le.mpr hlow)
  simp [panExpr, Regex.delimited, Regex.rep, Regex.cat, Regex.rejects, digit, separator, hdecimal,
    hdash, hspace]

theorem IsFragment.ne_nil (h : IsFragment text before card w) : w ≠ [] := by
  rintro rfl
  exact absurd h.length_eq (by decide)

theorem IsFragment.not_mem_of_rejects {c : Char} (h : IsFragment text before card w)
    (hcard : IsCard alnum before card after) (hc : panExpr.rejects c = true) : c ∉ w := by
  intro hmem
  exact hcard.not_mem hc (h.infix_card.subset hmem)

theorem IsFragment.not_mem_marker (h : IsFragment text before card w)
    (hcard : IsCard alnum before card after) :
    ∀ r ∈ patterns, ∀ c ∈ w, c ∉ r.marker.text := by
  intro r hr c hw hc
  exact h.not_mem_of_rejects hcard (rejects_marker hr List.mem_cons_self c hc) hw

/-- A word that has nothing of the end of a list in it stands before that end. -/
theorem eq_append_of_append {l d b a : List Char} (hne : w ≠ []) (hd : ∀ c ∈ w, c ∉ d)
    (h : l ++ d = b ++ (w ++ a)) : ∃ a', l = b ++ (w ++ a') ∧ a = a' ++ d := by
  rw [← List.append_assoc] at h
  rcases List.append_eq_append_iff.mp h with ⟨z, hbw, hz⟩ | ⟨a', hl, ha⟩
  · rcases List.eq_nil_or_concat z with rfl | ⟨z, c, rfl⟩
    · rw [List.append_nil] at hbw
      exact ⟨[], by rw [List.append_nil, hbw], hz.symm⟩
    · -- the last character of the word would be one of the end
      obtain ⟨w', c', rfl⟩ := (List.eq_nil_or_concat w).resolve_left hne
      rw [List.concat_eq_append, List.concat_eq_append, ← List.append_assoc, ← List.append_assoc]
        at hbw
      obtain rfl : c' = c := List.singleton_inj.mp (List.append_inj_right' hbw rfl)
      refine absurd ?_ (hd c' (by rw [List.concat_eq_append]; simp))
      rw [hz]
      simp
  · rw [List.append_assoc] at hl
    exact ⟨a', hl, ha⟩

/-- Where a fragment stands in the shortened text, it stands before the cut. -/
theorem IsFragment.before_cut {b a : List Char} (h : IsFragment text before card w)
    (hcard : IsCard alnum before card after) (hs : shorten text = b ++ (w ++ a)) :
    (∃ y, text = b ++ (w ++ y)) ∧ (text.length > 200 → b.length + w.length ≤ 200) := by
  unfold shorten at hs
  split at hs
  · have hdots : ∀ c ∈ w, c ∉ ['.', '.', '.'] := by
      intro c hw hc
      have hdot : c = '.' := by simpa using hc
      rw [hdot] at hw
      exact h.not_mem_of_rejects hcard
        (panExpr_rejects (by decide) (by decide) (by decide) rfl) hw
    obtain ⟨a', ha', -⟩ := eq_append_of_append h.ne_nil hdots hs
    refine ⟨⟨a' ++ text.drop 200, ?_⟩, ?_⟩
    · have htext := (List.take_append_drop 200 text).symm
      rw [ha', List.append_assoc, List.append_assoc] at htext
      exact htext
    · intro _
      have hlen := congrArg List.length ha'
      rw [List.length_append, List.length_append] at hlen
      have htake := List.length_take_le 200 text
      omega
  · rename_i hshort
    exact ⟨⟨a, hs⟩, fun hlong => absurd hlong hshort⟩

/-- And the other way round. -/
theorem shorten_eq_of_before_cut {x y : List Char} (ht : text = x ++ (w ++ y))
    (hcut : text.length > 200 → x.length + w.length ≤ 200) :
    shorten text = x ++ (w ++ (shorten text).drop (x.length + w.length)) := by
  have hprefix : (x ++ w) <+: shorten text := by
    have htext : (x ++ w) <+: text := ⟨y, by rw [ht, List.append_assoc]⟩
    unfold shorten
    split
    · rename_i hlong
      have htake : (x ++ w) <+: text.take 200 := by
        refine List.prefix_take_iff.mpr ⟨htext, ?_⟩
        rw [List.length_append]
        exact hcut hlong
      exact htake.trans (List.prefix_append _ _)
    · exact htext
  obtain ⟨t, ht'⟩ := hprefix
  rw [← ht', ← List.length_append, List.drop_left, List.append_assoc]

theorem CardsCaught.taken (h : CardsCaught alnum text) : CardsTaken alnum text := by
  intro before card after ht hcard w hw x y hxy hcut
  refine Caught.taken patterns_apart ?_
  rw [← shorten_eq_of_before_cut hxy hcut]
  exact h before card after ht hcard w hw x y hxy hcut

theorem CardsTaken.touched (h : CardsTaken alnum text) : CardsTouched alnum text := by
  intro before card after ht hcard w hw x y hxy hcut
  rw [shorten_eq_of_before_cut hxy hcut]
  exact (h before card after ht hcard w hw x y hxy hcut).touched patterns_apart

/-- **When a shortened and redacted text hides the card numbers.** -/
theorem hidesCards_iff : HidesCards alnum text (applyAll (isWord alnum) patterns (shorten text)) ↔
    CardsTaken alnum text := by
  constructor
  · intro h before card after ht hcard w hw x y hxy hcut
    by_contra hnot
    refine h before card after ht hcard w hw ?_
    refine (Substitution.infix_applyAll_iff hw.ne_nil (hw.not_mem_marker hcard)).mpr ?_
    exact ⟨x, _, shorten_eq_of_before_cut hxy hcut, hnot⟩
  · intro h before card after ht hcard w hw hshown
    obtain ⟨b, a, hs, hnot⟩ :=
      (Substitution.infix_applyAll_iff hw.ne_nil (hw.not_mem_marker hcard)).mp hshown
    obtain ⟨⟨y, hy⟩, hcut⟩ := hw.before_cut hcard hs
    have htaken := h before card after ht hcard w hw b y hy hcut
    have hdrop : (shorten text).drop (b.length + w.length) = a := by
      rw [hs, ← List.append_assoc, ← List.length_append, List.drop_left]
    rw [hdrop] at htaken
    exact hnot htaken

end Cards

/-! ## Card numbers that stand alone -/

section Alone

variable {alnum : Char → Bool} {text before card after : List Char}

theorem card_begins (hdigits : ∀ c, Pattern.IsDecimal c → isWord alnum c = true)
    (h : IsCard alnum before card after) : card.head?.any (isWord alnum) = true := by
  obtain ⟨c, rest, rfl, hc⟩ := exists_digit_of_fits h
  exact hdigits c hc

theorem card_ends (hdigits : ∀ c, Pattern.IsDecimal c → isWord alnum c = true)
    (h : IsCard alnum before card after) : card.reverse.head?.any (isWord alnum) = true := by
  obtain ⟨rest, c, hcard, hc⟩ := exists_digit_of_card h
  rw [hcard]
  exact hdigits c hc

/-- What stands before a card number does not end in a digit. -/
theorem not_digit_before {u : List Char} {c : Char}
    (hdigits : ∀ c, Pattern.IsDecimal c → isWord alnum c = true)
    (h : IsCard alnum (u ++ [c]) card after) : ¬ Pattern.IsDecimal c := by
  intro hc
  have hat := (Substitution.matches_delimited h).1
  obtain ⟨d, rest, rfl, hd⟩ := exists_digit_of_fits h
  rw [List.reverse_append] at hat
  change (isWord alnum c != isWord alnum d) = true at hat
  rw [hdigits c hc, hdigits d hd] at hat
  cases hat

theorem not_at_mem_shorten (h : '@' ∉ text.take 200) : '@' ∉ shorten text := by
  unfold shorten
  split
  · intro hmem
    rcases List.mem_append.mp hmem with hmem | hmem
    · exact h hmem
    · exact absurd hmem (by decide)
  · rename_i hshort
    rw [List.take_of_length_le (Nat.not_lt.mp hshort)] at h
    exact h

/-- After what stands before the cut comes a word character only if there was one. -/
theorem head?_drop_shorten {n : Nat} (hn : text.length > 200 → n ≤ 200)
    (h : ((shorten text).drop n).head?.any (isWord alnum) = true) :
    (text.drop n).head?.any (isWord alnum) = true := by
  unfold shorten at h
  split at h
  · rename_i hlong
    have htake : n ≤ (text.take 200).length := by
      rw [List.length_take_of_le hlong.le]
      exact hn hlong
    rw [List.drop_append_of_le_length htake, List.drop_take] at h
    cases hrest : text.drop n with
    | nil =>
      rw [hrest, List.take_nil] at h
      cases h
    | cons c rest =>
      cases hk : 200 - n with
      | zero =>
        rw [hk, List.take_zero] at h
        cases h
      | succ k =>
        rw [hrest, hk] at h
        exact h
  · exact h

/-- A number that runs into a card number has the two characters before it, or ends in it. -/
theorem fits_into_card {x v y z : List Char}
    (hdigits : ∀ c, Pattern.IsDecimal c → isWord alnum c = true)
    (h : IsCard alnum before card after)
    (halone : ∀ u d c, before = u ++ [d, c] → panExpr.rejects d = true ∨ panExpr.rejects c = true)
    (hv : ∃ b a, panExpr.Matches (isWord alnum) b v a) (htext : x ++ (v ++ y) = before ++ (card ++ z))
    (hle : x.length ≤ before.length) (hlt : before.length < x.length + v.length) :
    x.length = before.length := by
  obtain ⟨b, a, hv⟩ := hv
  by_contra hne
  obtain ⟨u, rfl⟩ : x <+: before :=
    List.prefix_of_prefix_length_le ⟨_, htext⟩ ⟨_, rfl⟩ hle
  rw [List.append_assoc, List.append_cancel_left_eq] at htext
  rw [List.length_append] at hne hlt
  obtain ⟨v', rfl⟩ : u <+: v :=
    List.prefix_of_prefix_length_le ⟨_, htext.symm⟩ ⟨_, rfl⟩ (by omega)
  rcases List.eq_nil_or_concat u with rfl | ⟨u, c, rfl⟩
  · exact hne rfl
  rw [List.concat_eq_append] at h halone hv
  rcases List.eq_nil_or_concat u with rfl | ⟨u, d, rfl⟩
  · -- the number begins with the character before the card number, so that is a digit
    obtain ⟨c', rest, hc', hdigit⟩ := exists_digit_of_fits hv
    obtain rfl := (List.cons.inj hc').1
    exact not_digit_before hdigits h hdigit
  · rw [List.concat_eq_append] at halone hv
    rcases halone (x ++ u) d c (by simp) with hreject | hreject
    · exact hv.not_mem hreject (by simp)
    · exact hv.not_mem hreject (by simp)

/-- **Plain card numbers are caught**: each one by itself. -/
theorem CardsPlain.caught (hdigits : ∀ c, Pattern.IsDecimal c → isWord alnum c = true)
    (h : CardsPlain alnum text) : CardsCaught alnum text := by
  intro before card after ht hcard w hw x y hxy hcut
  obtain ⟨hin, hin'⟩ := hw.inside x y hxy
  obtain ⟨hmin, hmax⟩ := card_length hcard
  have hlen := hw.length_eq
  rcases h.alone before card after ht hcard with ⟨hlong, hlt⟩ | ⟨hwhole, halone⟩
  · have hle := hcut hlong
    omega
  · have htext := shorten_eq_of_before_cut ht hwhole
    refine ⟨[_], _, _, rfl, before, card, _, htext, ?_, ⟨by omega, by omega⟩,
      .inr ⟨card_begins hdigits hcard, card_ends hdigits hcard⟩, ?_⟩
    · refine Regex.Matches.transfer_of_edges (card_begins hdigits hcard) (card_ends hdigits hcard)
        id ?_ hcard
      intro hword
      have hafter : text.drop (before.length + card.length) = after := by
        rw [ht, ← List.append_assoc, ← List.length_append, List.drop_left]
      rw [← hafter]
      refine head?_drop_shorten ?_ hword
      intro hlong
      exact hwhole hlong
    · intro x' v' y' htext' ho hfits
      obtain ⟨ho₁, ho₂⟩ := ho
      rcases hfits with ⟨r', hr', b, a, hv'⟩ | ⟨hle, hv'⟩
      · obtain rfl := List.mem_singleton.mp hr'
        refine absurd ?_ (not_at_mem_shorten h.no_email)
        rw [htext']
        exact List.mem_append_right _ (List.mem_append_left _ (at_mem_of_email hv'))
      · have hstart := fits_into_card hdigits hcard halone hv' (htext'.symm.trans htext) hle ho₂
        obtain ⟨b, a, hv'⟩ := hv'
        have hmin' : 16 ≤ v'.length := hv'.minLength_le
        exact ⟨by omega, by omega⟩

end Alone

/-! ## The digest of a record -/

section Digest

variable {S Obj : Type} (lib : Library S Obj) (auditLib : AuditLibrary Obj) (alnum : Char → Bool)
  (other : Obj → Obj)

/-- `redactor.scrub` of a digest. What becomes of the values that are no texts is `other`. -/
def scrubDigest (digest : Kwargs Obj) : Kwargs Obj :=
  digest.map fun field =>
    match lib.asStr field.2 with
    | some text => (field.1, lib.ofJson (.str (redactText alnum text)))
    | none => (field.1, other field.2)

/-- A library whose digests are redacted by an enabled redactor. -/
def redacting : AuditLibrary Obj := { auditLib with scrubDigest := scrubDigest lib alnum other }

/-- In the digest of the record, the entry of each text of the request hides its card numbers. -/
def DigestHidesCards (request : AssistiveRequest S Obj) (record : ReasoningAuditRecord Obj) : Prop :=
  ∀ (i : Nat) (key text : String) (value : Obj),
    request.groundingInputs[i]? = some (key, value) → lib.asStr value = some text →
      ∃ entry shown, record.groundingDigest[i]? = some (key, entry) ∧ lib.asStr entry = some shown ∧
        HidesCards alnum text.toList shown.toList

variable {lib auditLib alnum other} {request : AssistiveRequest S Obj} {result : AssistiveResult Obj}
  {profile : ModelProfile} {promptRef : String} {now : Time}

theorem toList_shorten (text : String) :
    (if text.length > 200 then String.ofList (text.toList.take 200) ++ "..." else text).toList =
      shorten text.toList := by
  unfold shorten
  rw [String.length_toList]
  split
  · rw [String.toList_append, String.toList_ofList]
    rfl
  · rfl

/-- An entry of the digest: the text, shortened and then redacted. -/
theorem digest_entry (hstr : ∀ text, lib.asStr (lib.ofJson (.str text)) = some text) {i : Nat}
    {key text : String} {value : Obj} (hfield : request.groundingInputs[i]? = some (key, value))
    (htext : lib.asStr value = some text) :
    (buildAuditRecord lib (redacting lib auditLib alnum other) true request result profile promptRef
        now).groundingDigest[i]? =
      some (key, lib.ofJson (.str (redactText alnum
        (if text.length > 200 then String.ofList (text.toList.take 200) ++ "..." else text)))) := by
  unfold buildAuditRecord redacting scrubDigest compactDigest
  dsimp only
  rw [if_pos rfl, List.getElem?_map, List.getElem?_map, hfield]
  dsimp only [Option.map_some]
  rw [htext]
  by_cases hlong : text.length > 200
  · simp only [if_pos hlong, hstr]
  · simp only [if_neg hlong, htext]

/-- Each text for itself. -/
theorem digestHidesCards_iff (hstr : ∀ text, lib.asStr (lib.ofJson (.str text)) = some text) :
    DigestHidesCards lib alnum request (buildAuditRecord lib (redacting lib auditLib alnum other) true
        request result profile promptRef now) ↔
      ∀ (i : Nat) (key text : String) (value : Obj),
        request.groundingInputs[i]? = some (key, value) → lib.asStr value = some text →
          HidesCards alnum text.toList
            (applyAll (isWord alnum) patterns (shorten text.toList)) := by
  refine forall₄_congr fun i key text value => forall₂_congr fun hfield htext => ?_
  rw [digest_entry hstr hfield htext, ← toList_shorten, ← toList_redactText]
  constructor
  · rintro ⟨entry, shown, hentry, hshown, hhides⟩
    obtain ⟨-, rfl⟩ := Prod.mk.inj (Option.some.inj hentry)
    rw [hstr] at hshown
    cases hshown
    exact hhides
  · intro hhides
    exact ⟨_, _, rfl, hstr _, hhides⟩

end Digest

/-- A request with a note. -/
def noteRequest (note : String) : AssistiveRequest Unit SampleObj :=
  { sampleRequest "test-agent" with groundingInputs := [("note", .plain (.str note))] }

/-- What is alphanumeric past ASCII, as far as card numbers go. -/
def otherDigit (c : Char) : Bool := decide (Pattern.IsDecimal c)

/-- The record of a result for it. -/
def noteRecord (note : String) : ReasoningAuditRecord SampleObj :=
  buildAuditRecord sampleLibrary (redacting sampleLibrary sampleAuditLibrary otherDigit id) true
    (noteRequest note) sampleResult {} "" 0

theorem isWord_of_isDecimal (c : Char) (h : Pattern.IsDecimal c) : isWord otherDigit c = true := by
  unfold isWord
  split
  · rename_i hascii
    rcases h with h | h
    · have hdigit : isAlphanumeric c = true := by
        unfold isAlphanumeric
        rw [Bool.or_eq_true]
        exact .inr (decide_eq_true h)
      rw [hdigit]
      rfl
    · have hpast := h.past_ascii
      omega
  · exact decide_eq_true h

/-- A note with a card number in it. -/
def cardNote : String := "My card is 4242 5353 6464 7575, thanks."

/-- Where there is one in a text. -/
theorem ends_ne_nil_of_isCard {alnum : Char → Bool} {text before card after : List Char}
    (ht : text = before ++ (card ++ after)) (h : IsCard alnum before card after) :
    before.length < text.length + 1 ∧
      Substitution.ends (isWord alnum) panExpr
        ⟨(text.take before.length).reverse, text.drop before.length⟩ ≠ [] := by
  have hmem : (⟨card.reverse ++ before.reverse, after⟩ : Substitution.Place Char) ∈
      Substitution.ends (isWord alnum) panExpr ⟨before.reverse, card ++ after⟩ :=
    Substitution.mem_ends_iff.mpr ⟨card, rfl, rfl, h⟩
  rw [ht, List.take_left, List.drop_left, List.length_append]
  exact ⟨by omega, List.ne_nil_of_mem hmem⟩

theorem cardNote_plain : CardsPlain otherDigit cardNote.toList := by
  refine ⟨by decide +kernel, fun before card after ht hcard => .inr ⟨?_, ?_⟩⟩
  · exact fun hlong => absurd hlong (by decide +kernel)
  · have honly : ∀ n < cardNote.toList.length + 1, Substitution.ends (isWord otherDigit) panExpr
        ⟨(cardNote.toList.take n).reverse, cardNote.toList.drop n⟩ ≠ [] → n = 11 := by
      decide +kernel
    obtain ⟨hlt, hne⟩ := ends_ne_nil_of_isCard ht hcard
    have hlen := honly before.length hlt hne
    intro u d c hbefore
    have htake : cardNote.toList.take 11 = u ++ [d, c] := by
      rw [← hbefore, ← hlen, ht, List.take_left]
    obtain ⟨-, hdc⟩ := List.append_inj' (htake.symm.trans
      (show cardNote.toList.take 11 = "My card i".toList ++ ['s', ' '] by decide +kernel)) rfl
    obtain ⟨rfl, -⟩ := List.cons.inj hdc
    exact .inl (by decide +kernel)

section Shown

variable {alnum : Char → Bool} {text before card after w : List Char}

theorem isCard_of_ends (h : (Substitution.ends (isWord alnum) panExpr
    ⟨before.reverse, card ++ after⟩).any (fun e => e.after == after) = true) :
    IsCard alnum before card after := by
  obtain ⟨e, he, hafter⟩ := List.any_eq_true.mp h
  obtain ⟨v, hv, -, hmatch⟩ := Substitution.mem_ends_iff.mp he
  rw [eq_of_beq hafter] at hv hmatch
  rw [← List.append_cancel_right hv] at hmatch
  exact hmatch

/-- Where a word stands in a text, place for place. -/
theorem inside_of_forall {lo hi : Nat}
    (h : ∀ n < text.length + 1, (text.drop n).take w.length = w → lo ≤ n ∧ n + w.length ≤ hi) :
    ∀ x y, text = x ++ (w ++ y) → lo ≤ x.length ∧ x.length + w.length ≤ hi := by
  intro x y hxy
  have hlen := congrArg List.length hxy
  rw [List.length_append] at hlen
  refine h x.length (by omega) ?_
  rw [hxy, List.drop_left, List.take_left]

end Shown

def sampleCard : List Char := "4242 5353 6464 7575".toList

/-- 186 characters. -/
def orders : List Char := (List.replicate 31 "order ".toList).flatten

/-- A card number that the cut falls into. -/
def cutNote : List Char := orders ++ (sampleCard ++ [])

/-- What is kept of it is no match of any pattern. -/
theorem cutNote_not_found :
    ∀ r ∈ patterns, ¬ Substitution.Found (isWord otherDigit) r.pattern (shorten cutNote) := by
  decide +kernel

theorem cutNote_shows : ¬ HidesCards otherDigit cutNote
    (applyAll (isWord otherDigit) patterns (shorten cutNote)) := by
  intro h
  rw [Substitution.applyAll_eq_self cutNote_not_found] at h
  refine h orders sampleCard [] rfl (isCard_of_ends (by decide +kernel)) "4242 5353 64".toList ?_ ?_
  · exact ⟨by decide +kernel, by decide +kernel, inside_of_forall (by decide +kernel)⟩
  · decide +kernel

/-- A card number whose first group is the last label of a domain. -/
def mailNote : List Char := "a@b.".toList ++ (sampleCard ++ [])

theorem mailNote_shows : ¬ HidesCards otherDigit mailNote
    (applyAll (isWord otherDigit) patterns (shorten mailNote)) := by
  intro h
  refine h "a@b.".toList sampleCard [] rfl (isCard_of_ends (by decide +kernel))
    "5353 6464 75".toList ?_ ?_
  · exact ⟨by decide +kernel, by decide +kernel, inside_of_forall (by decide +kernel)⟩
  · decide +kernel

end RefundOps.Llm
