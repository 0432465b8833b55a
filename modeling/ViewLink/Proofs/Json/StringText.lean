import Mathlib.Tactic.SplitIfs
import ViewLink.Json.Scan
import ViewLink.Proofs.Except
import ViewLink.Proofs.Text.Utf8

/-!
# The text of strings

Between its quotation marks a string is written character by character. A character stands for
itself, in UTF-8, or it is escaped: by a letter, by its code unit in four hexadecimal digits, or by
two code units that are the halves of a surrogate pair. The quotation mark, the backslash and the
control characters have to be escaped, and half a pair stands for nothing.

The reader accepts exactly this (`readString_eq_ok`). It goes by octets and asks only at the end
whether they are UTF-8, so the proof has two steps. The octets that it collects are those of a
coarser grammar, `OctetsText`, in which an octet may stand for itself. If they are the octets of
characters, then each character is written by itself, because an escape never gives the second or a
later octet of a character.

## Main definitions

* `UnitText`, `EscapeText` — escapes;
* `CharsText` — the text of a string between its quotation marks;
* `OctetsText` — the same, octet by octet.
-/

set_option autoImplicit false

namespace ViewLink.Json

open Text (utf8 utf8_cons utf8_nil)

/-! ## The grammar -/

/-- The letters of escapes, with the characters that they stand for. -/
def letterEscapes : List (UInt8 × Char) :=
  [(0x22, '"'), (0x5C, '\\'), (0x2F, '/'), (0x62, '\x08'), (0x66, '\x0C'), (0x6E, '\n'),
    (0x72, '\r'), (0x74, '\t')]

/-- **A code unit in four hexadecimal digits.** -/
inductive UnitText : Bytes → Nat → Prop
  | mk {a b c d : UInt8} {unit : Nat} : hexNumber? [a, b, c, d] = some unit →
      UnitText [Ascii.backslash, 0x75, a, b, c, d] unit

/-- The code unit is the first half of a surrogate pair. -/
def IsFirstHalf (unit : Nat) : Prop := 0xD800 ≤ unit ∧ unit ≤ 0xDBFF

/-- The code unit is the second half of a surrogate pair. -/
def IsSecondHalf (unit : Nat) : Prop := 0xDC00 ≤ unit ∧ unit ≤ 0xDFFF

/-- **An escaped character.** -/
inductive EscapeText : Bytes → Char → Prop
  /-- By a letter. -/
  | letter {b : UInt8} {c : Char} : (b, c) ∈ letterEscapes → EscapeText [Ascii.backslash, b] c
  /-- By its code unit. -/
  | unit {t : Bytes} {unit : Nat} : UnitText t unit → ¬ IsFirstHalf unit → ¬ IsSecondHalf unit →
      EscapeText t (Char.ofNat unit)
  /-- By a surrogate pair. -/
  | pair {t t' : Bytes} {high low : Nat} : UnitText t high → IsFirstHalf high →
      UnitText t' low → IsSecondHalf low →
      EscapeText (t ++ t') (Char.ofNat (0x10000 + (high - 0xD800) * 0x400 + (low - 0xDC00)))

/-- **The text of some characters inside a string.** -/
inductive CharsText : Bytes → List Char → Prop
  /-- Nothing is the text of no character. -/
  | nil : CharsText [] []
  /-- A character that stands for itself. -/
  | plain {c : Char} {t : Bytes} {cs : List Char} : c ≠ '"' → c ≠ '\\' → 0x20 ≤ c.toNat →
      CharsText t cs → CharsText (String.utf8EncodeChar c ++ t) (c :: cs)
  /-- An escaped character. -/
  | escape {e t : Bytes} {c : Char} {cs : List Char} : EscapeText e c → CharsText t cs →
      CharsText (e ++ t) (c :: cs)

/-- **The same, octet by octet.** Octets that stand for themselves need not be UTF-8. -/
inductive OctetsText : Bytes → Bytes → Prop
  /-- Nothing is the text of no octet. -/
  | nil : OctetsText [] []
  /-- An octet that stands for itself. -/
  | plain {b : UInt8} {t octets : Bytes} : b ≠ Ascii.quote → b ≠ Ascii.backslash → 0x20 ≤ b →
      OctetsText t octets → OctetsText (b :: t) (b :: octets)
  /-- The octets of an escaped character. -/
  | escape {e t octets : Bytes} {c : Char} : EscapeText e c → OctetsText t octets →
      OctetsText (e ++ t) (String.utf8EncodeChar c ++ octets)

/-! ## What the grammar has is read -/

/-- The octets before those that a reader collects. -/
def prepend (octets : Bytes) (r : Except Fault (Bytes × Bytes)) : Except Fault (Bytes × Bytes) := do
  let (more, rest) ← r
  return (octets ++ more, rest)

theorem prepend_ok (octets more rest : Bytes) :
    prepend octets (.ok (more, rest)) = .ok (octets ++ more, rest) := rfl

theorem prepend_nil (r : Except Fault (Bytes × Bytes)) : prepend [] r = r := by
  cases r <;> rfl

/-- Four hexadecimal digits are read, and their number decides what comes next. -/
theorem readOctets_hex {a b c d : UInt8} {unit : Nat} (hunit : hexNumber? [a, b, c, d] = some unit)
    {first : Option Nat} {next : InString} {added : Bytes}
    (hstep : unitStep first unit = some (next, added)) (bs : Bytes) :
    readOctets (.hex first []) (a :: b :: c :: d :: bs) = prepend added (readOctets next bs) := by
  have hall : (hexNumber? [a, b, c, d]).bind (unitStep first) = some (next, added) := by
    rw [hunit, Option.bind_some, hstep]
  simp only [readOctets, List.nil_append, List.cons_append, List.length_cons, List.length_nil,
    Nat.reduceAdd, Nat.reduceLT, if_true, if_false, hall]
  rfl

/-- **An escape is undone**, whichever it is. -/
theorem readOctets_escape {e : Bytes} {c : Char} (h : EscapeText e c) (bs : Bytes) :
    readOctets .plain (e ++ bs) = prepend (String.utf8EncodeChar c) (readOctets .plain bs) := by
  cases h with
  | @letter b _ hmem =>
      have hall : ∀ p ∈ letterEscapes, readOctets .plain ([Ascii.backslash, p.1] ++ bs)
          = prepend (String.utf8EncodeChar p.2) (readOctets .plain bs) := by
        simp only [letterEscapes, List.forall_mem_cons]
        exact ⟨rfl, rfl, rfl, rfl, rfl, rfl, rfl, rfl, by simp⟩
      exact hall (b, c) hmem
  | @unit _ unit ht hfirst hsecond =>
      obtain ⟨hunit⟩ := ht
      have hstep : unitStep none unit
          = some (.plain, String.utf8EncodeChar (Char.ofNat unit)) := by
        rw [IsFirstHalf] at hfirst
        rw [IsSecondHalf] at hsecond
        simp [unitStep, hfirst, hsecond]
      exact readOctets_hex hunit hstep bs
  | @pair _ _ high low ht hfirst ht' hsecond =>
      obtain @⟨a, b, c, d, _, hhigh⟩ := ht
      obtain @⟨a', b', c', d', _, hlow⟩ := ht'
      have hopen : unitStep none high = some (.pair high, []) := by
        rw [IsFirstHalf] at hfirst
        have hnot : ¬ 0xDC00 ≤ high := by omega
        simp [unitStep, hfirst, hnot]
      have hclose : unitStep (some high) low = some (.plain, String.utf8EncodeChar
          (Char.ofNat (0x10000 + (high - 0xD800) * 0x400 + (low - 0xDC00)))) := by
        rw [IsSecondHalf] at hsecond
        simp [unitStep, hsecond]
      calc readOctets .plain ([Ascii.backslash, 0x75, a, b, c, d]
              ++ [Ascii.backslash, 0x75, a', b', c', d'] ++ bs)
          = prepend [] (readOctets (.pair high)
              (Ascii.backslash :: 0x75 :: a' :: b' :: c' :: d' :: bs)) :=
            readOctets_hex hhigh hopen _
        _ = readOctets (.hex (some high) []) (a' :: b' :: c' :: d' :: bs) := prepend_nil _
        _ = _ := readOctets_hex hlow hclose bs

theorem readOctets_complete {body octets : Bytes} (h : OctetsText body octets) (rest : Bytes) :
    readOctets .plain (body ++ Ascii.quote :: rest) = .ok (octets, rest) := by
  induction h with
  | nil => rfl
  | @plain b t octets hquote hbackslash hcontrol _ ih =>
      rw [List.cons_append, readOctets, if_neg hquote, if_neg hbackslash,
        if_neg (UInt8.not_lt.2 hcontrol), ih]
      rfl
  | @escape e t octets c he _ ih => rw [List.append_assoc, readOctets_escape he, ih, prepend_ok]

/-! ## What is read is in the grammar -/

/-- **What has been read of a character** when the reader stands somewhere inside a string. -/
inductive Pending : InString → Bytes → Prop
  /-- Between characters. -/
  | plain : Pending .plain []
  /-- A backslash. -/
  | escape : Pending .escape [Ascii.backslash]
  /-- Some digits of a code unit. -/
  | hex {seen : Bytes} : seen.length < 4 →
      Pending (.hex none seen) (Ascii.backslash :: 0x75 :: seen)
  /-- The first half of a surrogate pair. -/
  | pair {t : Bytes} {high : Nat} : UnitText t high → IsFirstHalf high → Pending (.pair high) t
  /-- The same and a backslash. -/
  | pairEscape {t : Bytes} {high : Nat} : UnitText t high → IsFirstHalf high →
      Pending (.pairEscape high) (t ++ [Ascii.backslash])
  /-- The same and some digits of the second half. -/
  | pairHex {t seen : Bytes} {high : Nat} : UnitText t high → IsFirstHalf high → seen.length < 4 →
      Pending (.hex (some high) seen) (t ++ Ascii.backslash :: 0x75 :: seen)

theorem letterEscape?_eq_some {b octet : UInt8} (h : letterEscape? b = some octet) :
    ∃ c, (b, c) ∈ letterEscapes ∧ String.utf8EncodeChar c = [octet] := by
  simp only [letterEscape?, Bool.or_eq_true, decide_eq_true_eq] at h
  split_ifs at h with hself hb hf hn hr ht
  · obtain rfl := Option.some.inj h
    rcases hself with (rfl | rfl) | rfl
    · exact ⟨'"', by simp [letterEscapes], rfl⟩
    · exact ⟨'\\', by simp [letterEscapes], rfl⟩
    · exact ⟨'/', by simp [letterEscapes], rfl⟩
  · exact ⟨'\x08', by simp [letterEscapes, hb], Option.some.inj h ▸ rfl⟩
  · exact ⟨'\x0C', by simp [letterEscapes, hf], Option.some.inj h ▸ rfl⟩
  · exact ⟨'\n', by simp [letterEscapes, hn], Option.some.inj h ▸ rfl⟩
  · exact ⟨'\r', by simp [letterEscapes, hr], Option.some.inj h ▸ rfl⟩
  · exact ⟨'\t', by simp [letterEscapes, ht], Option.some.inj h ▸ rfl⟩

theorem UnitText.of_length {digits : Bytes} {unit : Nat} (hlength : digits.length = 4)
    (hunit : hexNumber? digits = some unit) :
    UnitText (Ascii.backslash :: 0x75 :: digits) unit := by
  rcases digits with _ | ⟨a, _ | ⟨b, _ | ⟨c, _ | ⟨d, _ | ⟨e, digits⟩⟩⟩⟩⟩ <;> simp at hlength
  exact .mk hunit

/-- **What a code unit does**: it is a character, or half of one that is due or waited for. -/
theorem unitStep_cases {first : Option Nat} {unit : Nat} {next : InString} {added : Bytes}
    (h : unitStep first unit = some (next, added)) :
    (first = none ∧ IsFirstHalf unit ∧ next = .pair unit ∧ added = [])
      ∨ (first = none ∧ ¬ IsFirstHalf unit ∧ ¬ IsSecondHalf unit ∧ next = .plain
          ∧ added = String.utf8EncodeChar (Char.ofNat unit))
      ∨ ∃ high, first = some high ∧ IsSecondHalf unit ∧ next = .plain
          ∧ added = String.utf8EncodeChar
              (Char.ofNat (0x10000 + (high - 0xD800) * 0x400 + (unit - 0xDC00))) := by
  simp only [unitStep, Bool.and_eq_true, decide_eq_true_eq] at h
  cases first with
  | some high =>
      dsimp only at h
      split_ifs at h with hsecond
      cases h
      exact .inr (.inr ⟨high, rfl, hsecond, rfl, rfl⟩)
  | none =>
      dsimp only at h
      split_ifs at h with hsecond hfirst
      · cases h
        exact .inl ⟨rfl, hfirst, rfl, rfl⟩
      · cases h
        exact .inr (.inl ⟨rfl, hfirst, hsecond, rfl, rfl⟩)

/-- **Everything that is read up to the closing quotation mark is in the grammar**, with what was
read before of a character that is not complete. -/
theorem readOctets_sound {state : InString} {bs octets rest before : Bytes}
    (h : readOctets state bs = .ok (octets, rest)) (hbefore : Pending state before) :
    ∃ body, OctetsText body octets ∧ before ++ bs = body ++ Ascii.quote :: rest := by
  -- By recursion along the string, with one case for each step of the reader.
  fun_induction readOctets state bs generalizing octets before
  case case1 => cases h
  case case2 bs =>
      cases h
      cases hbefore
      exact ⟨[], .nil, rfl⟩
  case case3 bs _ ih =>
      cases hbefore
      exact ih h .escape
  case case4 => cases h
  case case5 b bs hquote hbackslash hcontrol ih =>
      obtain ⟨⟨octets', rest'⟩, h', hpure⟩ := bind_eq_ok.1 h
      cases hpure
      cases hbefore
      obtain ⟨body, hbody, hbs⟩ := ih h' .plain
      refine ⟨b :: body, .plain hquote hbackslash (UInt8.not_lt.1 hcontrol) hbody, ?_⟩
      simpa using hbs
  case case6 bs ih =>
      cases hbefore
      exact ih h (.hex (by simp))
  case case7 => cases h
  case case8 b bs _ octet hletter ih =>
      obtain ⟨⟨octets', rest'⟩, h', hpure⟩ := bind_eq_ok.1 h
      cases hpure
      cases hbefore
      obtain ⟨c, hc, hoctet⟩ := letterEscape?_eq_some hletter
      obtain ⟨body, hbody, hbs⟩ := ih h' .plain
      have hescape := OctetsText.escape (.letter hc) hbody
      rw [hoctet] at hescape
      refine ⟨_, hescape, ?_⟩
      simpa using hbs
  case case9 first seen b bs seen' hfew ih =>
      cases hbefore with
      | hex => simpa [seen'] using ih h (.hex hfew)
      | pairHex ht hfirst => simpa [seen'] using ih h (.pairHex ht hfirst hfew)
  case case10 => cases h
  case case11 first seen b bs seen' hfour next added hunit ih =>
      obtain ⟨⟨octets', rest'⟩, h', hpure⟩ := bind_eq_ok.1 h
      cases hpure
      obtain ⟨unit, hnumber, hnext⟩ := Option.bind_eq_some_iff.1 hunit
      have hlength : seen.length < 4 → seen'.length = 4 := by
        simp only [seen', List.length_append, List.length_singleton] at hfour ⊢
        omega
      cases hbefore with
      | hex hfew =>
          have ht := UnitText.of_length (hlength hfew) hnumber
          rcases unitStep_cases hnext with ⟨-, hhalf, rfl, rfl⟩ | ⟨-, hfirst, hsecond, rfl, rfl⟩
            | ⟨_, hsome, -⟩
          · simpa [seen'] using ih h' (.pair ht hhalf)
          · obtain ⟨body, hbody, hbs⟩ := ih h' .plain
            refine ⟨_, .escape (.unit ht hfirst hsecond) hbody, ?_⟩
            simpa [seen'] using hbs
          · cases hsome
      | @pairHex t _ high ht hfirst hfew =>
          have ht' := UnitText.of_length (hlength hfew) hnumber
          rcases unitStep_cases hnext with ⟨hnone, -⟩ | ⟨hnone, -⟩
            | ⟨high', hhigh, hsecond, hplain, hadded⟩
          · cases hnone
          · cases hnone
          · obtain rfl := Option.some.inj hhigh
            subst hplain
            obtain ⟨body, hbody, hbs⟩ := ih h' .plain
            rw [hadded]
            refine ⟨_, .escape (.pair ht hfirst ht' hsecond) hbody, ?_⟩
            simpa [seen'] using hbs
  case case12 first bs ih =>
      cases hbefore with
      | pair ht hfirst => simpa using ih h (.pairEscape ht hfirst)
  case case13 => cases h
  case case14 first bs ih =>
      cases hbefore with
      | pairEscape ht hfirst => simpa using ih h (.pairHex ht hfirst (by simp))
  case case15 => cases h

/-- **The octets between the quotation marks**, and what they stand for. -/
theorem readOctets_eq_ok {bs octets rest : Bytes} :
    readOctets .plain bs = .ok (octets, rest)
      ↔ ∃ body, OctetsText body octets ∧ bs = body ++ Ascii.quote :: rest := by
  constructor
  · intro h
    exact readOctets_sound h .plain
  · rintro ⟨body, hbody, rfl⟩
    exact readOctets_complete hbody rest

/-! ## Octets of characters -/

theorem OctetsText.append {plain : Bytes} (hquote : Ascii.quote ∉ plain)
    (hbackslash : Ascii.backslash ∉ plain) (hcontrol : ∀ b ∈ plain, 0x20 ≤ b) {t octets : Bytes}
    (h : OctetsText t octets) : OctetsText (plain ++ t) (plain ++ octets) := by
  induction plain with
  | nil => exact h
  | cons b plain ih =>
      rw [List.mem_cons, not_or] at hquote hbackslash
      obtain ⟨hb, hcontrol⟩ := List.forall_mem_cons.1 hcontrol
      exact .plain (Ne.symm hquote.1) (Ne.symm hbackslash.1) hb
        (ih hquote.2 hbackslash.2 hcontrol)

/-- The text of characters is the text of their octets. -/
theorem CharsText.octets {body : Bytes} {cs : List Char} (h : CharsText body cs) :
    OctetsText body (utf8 cs) := by
  induction h with
  | nil => exact .nil
  | @plain c t cs hquote hbackslash hcontrol _ ih =>
      have hc : utf8 [c] = String.utf8EncodeChar c := by simp [utf8_cons]
      rw [utf8_cons, ← hc]
      refine ih.append ?_ ?_ (Text.le_of_mem_utf8 (by simpa using hcontrol))
      · exact Text.not_mem_utf8 (c := '"') (by simpa using hquote.symm) (by decide)
      · exact Text.not_mem_utf8 (c := '\\') (by simpa using hbackslash.symm) (by decide)
  | escape he _ ih =>
      rw [utf8_cons]
      exact .escape he ih

/-- Octets that no character begins with stand for themselves, since an escape gives all octets of
a character. -/
theorem OctetsText.later {later body octets : Bytes} (hlater : ∀ x ∈ later, ¬ x.IsUTF8FirstByte)
    (h : OctetsText body (later ++ octets)) :
    ∃ body', body = later ++ body' ∧ OctetsText body' octets := by
  induction later generalizing body with
  | nil => exact ⟨body, rfl, h⟩
  | cons x later ih =>
      obtain ⟨hx, hlater⟩ := List.forall_mem_cons.1 hlater
      generalize hall : x :: later ++ octets = all at h
      cases h with
      | nil => cases hall
      | plain _ _ _ h =>
          obtain ⟨rfl, rfl⟩ := List.cons.inj hall
          obtain ⟨body', rfl, hbody'⟩ := ih hlater h
          exact ⟨body', rfl, hbody'⟩
      | @escape _ _ _ c _ _ =>
          obtain ⟨b, bs, hc, hstart, -⟩ := Text.utf8EncodeChar_eq_cons c
          rw [hc] at hall
          obtain rfl : x = b := (List.cons.inj hall).1
          exact absurd hstart hx

/-- **If octets are those of characters, their text is the text of these.** -/
theorem OctetsText.chars {cs : List Char} {body : Bytes} (h : OctetsText body (utf8 cs)) :
    CharsText body cs := by
  induction cs generalizing body with
  | nil =>
      generalize hall : utf8 [] = all at h
      cases h with
      | nil => exact .nil
      | plain => cases hall
      | escape => exact absurd (List.append_eq_nil_iff.1 hall.symm).1 String.utf8EncodeChar_ne_nil
  | cons c cs ih =>
      rw [utf8_cons] at h
      generalize hall : String.utf8EncodeChar c ++ utf8 cs = all at h
      cases h with
      | nil => exact absurd (List.append_eq_nil_iff.1 hall).1 String.utf8EncodeChar_ne_nil
      | @plain b t octets hquote hbackslash hcontrol h =>
          obtain ⟨b', later, hc, -, hlater⟩ := Text.utf8EncodeChar_eq_cons c
          rw [hc] at hall
          obtain ⟨rfl, rfl⟩ := List.cons.inj hall
          obtain ⟨body', rfl, hbody'⟩ := h.later hlater
          -- An octet that stands for itself is the first one of this character.
          have hascii : c.toNat < 0x80 → b' = UInt8.ofNat c.toNat := by
            intro hlt
            rw [Text.utf8EncodeChar_of_lt hlt] at hc
            exact (List.cons.inj hc).1.symm
          suffices hchar : CharsText (String.utf8EncodeChar c ++ body') (c :: cs) by
            rwa [hc] at hchar
          refine .plain ?_ ?_ ?_ (ih hbody')
          · rintro rfl
            exact hquote (hascii (by decide))
          · rintro rfl
            exact hbackslash (hascii (by decide))
          · refine Nat.le_of_not_lt fun hlt => ?_
            rw [hascii (by omega), UInt8.le_iff_toNat_le, UInt8.toNat_ofNat_of_lt'
              (Nat.lt_trans hlt (by decide))] at hcontrol
            exact absurd hcontrol (Nat.not_le.2 hlt)
      | escape he h =>
          obtain ⟨rfl, rfl⟩ := Text.utf8EncodeChar_append_inj hall
          exact .escape he (ih h)

/-- **A string is read from its text and from nothing else**, after its opening quotation mark. -/
theorem readString_eq_ok {bs rest : Bytes} {s : String} :
    readString bs = .ok (s, rest)
      ↔ ∃ body, CharsText body s.toList ∧ bs = body ++ Ascii.quote :: rest := by
  rw [readString, bind_eq_ok]
  constructor
  · rintro ⟨⟨octets, rest'⟩, hoctets, h⟩
    obtain ⟨body, hbody, rfl⟩ := readOctets_eq_ok.1 hoctets
    cases hs : Text.ofUtf8? octets with
    | none =>
        simp only [hs] at h
        cases h
    | some s' =>
        simp only [hs] at h
        cases h
        rw [Text.ofUtf8?_eq_some.1 hs] at hbody
        exact ⟨body, hbody.chars, rfl⟩
  · rintro ⟨body, hbody, rfl⟩
    refine ⟨(Text.bytes s, rest), readOctets_eq_ok.2 ⟨body, hbody.octets, rfl⟩, ?_⟩
    simp only [Text.ofUtf8?_eq_some.2 rfl]
    rfl

end ViewLink.Json
