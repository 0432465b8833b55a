import Mathlib.Data.List.Induction
import ViewLink.Proofs.Json.NumberText
import ViewLink.Proofs.Json.Reader
import ViewLink.Proofs.Json.StringText

/-!
# The brackets of JSON text

Much of what can be said about a text whose parts do not fit together needs no grammar, only its
brackets and quotation marks. A `Place` in a text is the number of brackets and braces that are open
there, and whether it is inside a string. One byte leads from a place to the next one
(`Place.step`), or nowhere: a closing bracket needs an open one, and after a string comes a comma, a
colon or a closing bracket.

This is much less than JSON, but all that the reader accepts it accepts too. A string leads out of
itself and a number leads nowhere, by their grammars, and a value leads from its place back to the
same depth, outside of strings (`readValue_leads`). So a text that loses its way under `Place.scan`
cannot be read.

## Main definitions

* `Place`, `Place.step`, `Place.scan` — places and how bytes lead from one to the next;
* `Leads` — the bytes a reader has used lead from one place to another.
-/

set_option autoImplicit false

namespace ViewLink.Json

/-! ## Places -/

/-- **Where a place is**, as far as strings are concerned. -/
inductive Mode where
  /-- Outside of strings. -/
  | outside
  /-- Right after a string. -/
  | afterString
  /-- Inside a string. -/
  | inString
  /-- Inside a string, after a backslash. -/
  | escaped
  deriving DecidableEq

/-- The place is not inside a string. -/
def Mode.Resting (m : Mode) : Prop := m = .outside ∨ m = .afterString

/-- **A place in a text.** -/
structure Place where
  /-- The number of brackets and braces that are open. -/
  depth : Nat
  /-- Whether it is inside a string. -/
  mode : Mode
  deriving DecidableEq

/-- The bytes that open an array or an object. -/
def isOpening (b : UInt8) : Bool := b == Ascii.openBracket || b == Ascii.openBrace

/-- The bytes that close an array or an object. -/
def isClosing (b : UInt8) : Bool := b == Ascii.closeBracket || b == Ascii.closeBrace

/-- The bytes that mean nothing to a scan outside of strings. -/
def isPlain (b : UInt8) : Bool := !isOpening b && !isClosing b && b != Ascii.quote

theorem isOpening_of_isPlain {b : UInt8} (h : isPlain b = true) : isOpening b = false := by
  simp only [isPlain, Bool.and_eq_true, Bool.not_eq_true'] at h
  exact h.1.1

namespace Place

/-- The place after a closing bracket. -/
def close (p : Place) : Option Place :=
  match p.depth with
  | 0 => none
  | depth + 1 => some ⟨depth, .outside⟩

/-- **The place after a byte.** -/
def step (p : Place) (b : UInt8) : Option Place :=
  match p.mode with
  | .outside =>
    if isOpening b then some ⟨p.depth + 1, .outside⟩
    else if isClosing b then p.close
    else if b = Ascii.quote then some ⟨p.depth, .inString⟩
    else some p
  | .afterString =>
    -- A string is followed by what separates it from the rest, so no other string begins here.
    if isBlank b then some p
    else if isClosing b then p.close
    else if b = Ascii.comma || b = Ascii.colon then some ⟨p.depth, .outside⟩
    else none
  | .inString =>
    if b = Ascii.quote then some ⟨p.depth, .afterString⟩
    else if b = Ascii.backslash then some ⟨p.depth, .escaped⟩
    else some p
  | .escaped => some ⟨p.depth, .inString⟩

/-- **The place after some bytes.** -/
def scan (p : Place) (bs : Bytes) : Option Place := bs.foldlM step p

theorem scan_cons {p q : Place} {b : UInt8} (h : p.step b = some q) (bs : Bytes) :
    p.scan (b :: bs) = q.scan bs := by
  rw [scan, List.foldlM_cons, h]
  rfl

theorem scan_append (p : Place) (xs ys : Bytes) :
    p.scan (xs ++ ys) = (p.scan xs).bind fun q => q.scan ys :=
  List.foldlM_append

theorem scan_append_of_eq {p q : Place} {xs : Bytes} (h : p.scan xs = some q) (ys : Bytes) :
    p.scan (xs ++ ys) = q.scan ys := by
  rw [scan_append, h, Option.bind_some]

theorem step_plain {b : UInt8} (h : isPlain b = true) (d : Nat) :
    step ⟨d, .outside⟩ b = some ⟨d, .outside⟩ := by
  simp only [isPlain, Bool.and_eq_true, Bool.not_eq_true', bne_iff_ne, ne_eq] at h
  obtain ⟨⟨hopening, hclosing⟩, hquote⟩ := h
  simp [step, hopening, hclosing, hquote]

theorem scan_plain {bs : Bytes} (h : ∀ b ∈ bs, isPlain b = true) (d : Nat) :
    scan ⟨d, .outside⟩ bs = some ⟨d, .outside⟩ := by
  induction bs with
  | nil => rfl
  | cons b bs ih =>
      rw [scan_cons (step_plain (h b (by simp)) d)]
      exact ih fun c hc => h c (by simp [hc])

theorem isPlain_of_isBlank {b : UInt8} (h : isBlank b = true) : isPlain b = true := by
  simp only [isBlank, Bool.or_eq_true, beq_iff_eq] at h
  rcases h with ((rfl | rfl) | rfl) | rfl <;> decide

theorem step_blank {b : UInt8} (h : isBlank b = true) (d : Nat) {m : Mode} (hm : m.Resting) :
    step ⟨d, m⟩ b = some ⟨d, m⟩ := by
  rcases hm with rfl | rfl
  · exact step_plain (isPlain_of_isBlank h) d
  · simp [step, h]

theorem step_closing {b : UInt8} (h : isClosing b = true) (d : Nat) {m : Mode} (hm : m.Resting) :
    step ⟨d + 1, m⟩ b = some ⟨d, .outside⟩ := by
  simp only [isClosing, Bool.or_eq_true, beq_iff_eq] at h
  rcases h with rfl | rfl <;> rcases hm with rfl | rfl <;> rfl

theorem step_comma (d : Nat) {m : Mode} (hm : m.Resting) :
    step ⟨d, m⟩ Ascii.comma = some ⟨d, .outside⟩ := by
  rcases hm with rfl | rfl <;> rfl

theorem step_inString {b : UInt8} (hquote : b ≠ Ascii.quote) (hbackslash : b ≠ Ascii.backslash)
    (d : Nat) : step ⟨d, .inString⟩ b = some ⟨d, .inString⟩ := by
  simp [step, hquote, hbackslash]

theorem scan_inString {bs : Bytes} (hquote : Ascii.quote ∉ bs)
    (hbackslash : Ascii.backslash ∉ bs) (d : Nat) :
    scan ⟨d, .inString⟩ bs = some ⟨d, .inString⟩ := by
  induction bs with
  | nil => rfl
  | cons b bs ih =>
      rw [List.mem_cons, not_or] at hquote hbackslash
      rw [scan_cons (step_inString (Ne.symm hquote.1) (Ne.symm hbackslash.1) d)]
      exact ih hquote.2 hbackslash.2

end Place

/-! ## From one place to another -/

/-- **The bytes used on the way from the first text to the second lead from the first place to the
second.** -/
def Leads (p : Place) (bs : Bytes) (q : Place) (rest : Bytes) : Prop :=
  ∃ used, bs = used ++ rest ∧ p.scan used = some q

theorem skipBlank_cons {b : UInt8} (h : isBlank b = false) (bs : Bytes) :
    skipBlank (b :: bs) = b :: bs :=
  List.dropWhile_cons_of_neg (by simp [h])

namespace Leads

theorem refl (p : Place) (bs : Bytes) : Leads p bs p bs := ⟨[], rfl, rfl⟩

theorem cons {p q r : Place} {b : UInt8} {bs rest : Bytes} (h : p.step b = some q)
    (t : Leads q bs r rest) : Leads p (b :: bs) r rest := by
  obtain ⟨used, rfl, hscan⟩ := t
  exact ⟨b :: used, rfl, (Place.scan_cons h used).trans hscan⟩

theorem trans {p q r : Place} {bs mid rest : Bytes} (h : Leads p bs q mid)
    (t : Leads q mid r rest) : Leads p bs r rest := by
  obtain ⟨xs, rfl, hxs⟩ := h
  obtain ⟨ys, rfl, hys⟩ := t
  exact ⟨xs ++ ys, by rw [List.append_assoc], (Place.scan_append_of_eq hxs ys).trans hys⟩

theorem plain {used : Bytes} (h : ∀ b ∈ used, isPlain b = true) (d : Nat) (rest : Bytes) :
    Leads ⟨d, .outside⟩ (used ++ rest) ⟨d, .outside⟩ rest :=
  ⟨used, rfl, Place.scan_plain h d⟩

theorem blanks (bs : Bytes) (d : Nat) {m : Mode} (hm : m.Resting) :
    Leads ⟨d, m⟩ bs ⟨d, m⟩ (skipBlank bs) := by
  induction bs with
  | nil => exact refl _ _
  | cons b bs ih =>
      cases hb : isBlank b with
      | true =>
          rw [skipBlank, List.dropWhile_cons_of_pos hb]
          exact cons (Place.step_blank hb d hm) ih
      | false =>
          rw [skipBlank_cons hb]
          exact refl _ _

end Leads

/-! ## Strings -/

theorem hexValue?_of_hexNumber? {digits : Bytes} {n : Nat} (h : hexNumber? digits = some n) :
    ∀ b ∈ digits, (hexValue? b).isSome := by
  induction digits using List.reverseRecOn generalizing n with
  | nil => simp
  | append_singleton digits b ih =>
      rw [hexNumber?, List.foldl_append] at h
      obtain ⟨m, hm, h⟩ := Option.bind_eq_some_iff.1 h
      obtain ⟨v, hv, -⟩ := Option.bind_eq_some_iff.1 h
      intro c hc
      rcases List.mem_append.1 hc with hc | hc
      · exact ih hm c hc
      · obtain rfl := List.mem_singleton.1 hc
        simp [hv]

theorem step_of_hexValue? {b : UInt8} (h : (hexValue? b).isSome) (d : Nat) :
    Place.step ⟨d, .inString⟩ b = some ⟨d, .inString⟩ := by
  refine Place.step_inString ?_ ?_ d
  · rintro rfl
    exact absurd h (by decide)
  · rintro rfl
    exact absurd h (by decide)

theorem UnitText.leads {t : Bytes} {unit : Nat} (h : UnitText t unit) (d : Nat) (more : Bytes) :
    Leads ⟨d, .inString⟩ (t ++ more) ⟨d, .inString⟩ more := by
  obtain @⟨a₁, a₂, a₃, a₄, _, hunit⟩ := h
  have hdigit : ∀ b ∈ [a₁, a₂, a₃, a₄],
      Place.step ⟨d, .inString⟩ b = some ⟨d, .inString⟩ :=
    fun b hb => step_of_hexValue? (hexValue?_of_hexNumber? hunit b hb) d
  simp only [List.forall_mem_cons] at hdigit
  obtain ⟨h₁, h₂, h₃, h₄, -⟩ := hdigit
  exact .cons rfl (.cons rfl (.cons h₁ (.cons h₂ (.cons h₃ (.cons h₄ (.refl _ _))))))

theorem EscapeText.leads {e : Bytes} {c : Char} (h : EscapeText e c) (d : Nat) (more : Bytes) :
    Leads ⟨d, .inString⟩ (e ++ more) ⟨d, .inString⟩ more := by
  cases h with
  | letter => exact .cons rfl (.cons rfl (.refl _ _))
  | unit ht => exact ht.leads d more
  | pair ht _ ht' _ =>
      rw [List.append_assoc]
      exact (ht.leads d _).trans (ht'.leads d more)

/-- **A string leads out of itself.** Neither an octet that stands for itself nor an escape ends
it. -/
theorem OctetsText.leads {body octets : Bytes} (h : OctetsText body octets) (d : Nat)
    (rest : Bytes) :
    Leads ⟨d, .inString⟩ (body ++ Ascii.quote :: rest) ⟨d, .afterString⟩ rest := by
  induction h with
  | nil => exact .cons rfl (.refl _ _)
  | plain hquote hbackslash _ _ ih => exact .cons (Place.step_inString hquote hbackslash d) ih
  | escape he _ ih =>
      rw [List.append_assoc]
      exact (he.leads d _).trans ih

theorem readString_leads {bs rest : Bytes} {s : String} (d : Nat)
    (h : readString bs = .ok (s, rest)) :
    Leads ⟨d, .inString⟩ bs ⟨d, .afterString⟩ rest := by
  obtain ⟨body, hbody, rfl⟩ := readString_eq_ok.1 h
  exact hbody.octets.leads d rest

/-! ## Numbers -/

theorem isPlain_of_lt {b : UInt8} (hlow : 0x22 < b.toNat) (hhigh : b.toNat < 0x5B) :
    isPlain b = true := by
  have hne : ∀ c : UInt8, c.toNat ≤ 0x22 ∨ 0x5B ≤ c.toNat → b ≠ c := by
    rintro c hc rfl
    omega
  simp [isPlain, isOpening, isClosing, hne Ascii.openBracket (by decide),
    hne Ascii.openBrace (by decide), hne Ascii.closeBracket (by decide),
    hne Ascii.closeBrace (by decide), hne Ascii.quote (by decide)]

theorem isPlain_of_isDigit {b : UInt8} (h : Ascii.isDigit b = true) : isPlain b = true := by
  simp only [Ascii.isDigit, Bool.and_eq_true, decide_eq_true_eq, UInt8.le_iff_toNat_le] at h
  obtain ⟨hzero, hnine⟩ := h
  exact isPlain_of_lt (Nat.lt_of_lt_of_le (by decide) hzero) (Nat.lt_of_le_of_lt hnine (by decide))

theorem DigitsText.isPlain {t : Bytes} (h : DigitsText t) : ∀ b ∈ t, isPlain b = true :=
  fun b hb => isPlain_of_isDigit (h.isDigit b hb)

theorem SignText.isPlain {t : Bytes} {negative : Bool} (h : SignText t negative) :
    ∀ b ∈ t, isPlain b = true := by
  cases h <;> exact List.all_eq_true.1 rfl

theorem FractionText.isPlain {t : Bytes} {f : Option (List Nat)} (h : FractionText t f) :
    ∀ b ∈ t, isPlain b = true := by
  cases h with
  | none => exact List.all_eq_true.1 rfl
  | some ht => exact List.forall_mem_cons.2 ⟨by decide, ht.isPlain⟩

theorem ExponentText.isPlain {t : Bytes} {e : Option Int} (h : ExponentText t e) :
    ∀ b ∈ t, isPlain b = true := by
  cases h with
  | none => exact List.all_eq_true.1 rfl
  | some hmark hsign ht =>
      refine List.forall_mem_cons.2 ⟨?_, List.forall_mem_append.2 ⟨?_, ht.isPlain⟩⟩
      · rcases hmark with rfl | rfl <;> decide
      · rcases hsign with hsign | ⟨rfl, -⟩
        · exact hsign.isPlain
        · exact List.all_eq_true.1 rfl

/-- A number has no brackets and no quotation marks. -/
theorem NumberText.isPlain {t : Bytes} {n : Number} (h : NumberText t n) :
    ∀ b ∈ t, isPlain b = true := by
  obtain ⟨hsign, hwhole, hf, he, -⟩ := h
  exact List.forall_mem_append.2 ⟨hsign.isPlain,
    List.forall_mem_append.2 ⟨hwhole.toDigitsText.isPlain,
      List.forall_mem_append.2 ⟨hf.isPlain, he.isPlain⟩⟩⟩

theorem readNumber_leads {bs rest : Bytes} {n : Number} (d : Nat)
    (h : readNumber bs = .ok (n, rest)) : Leads ⟨d, .outside⟩ bs ⟨d, .outside⟩ rest := by
  obtain ⟨t, ht, rfl⟩ := readNumber_sound h
  exact Leads.plain ht.isPlain d rest

/-! ## Values

From here on a reader may end right after a string. What follows a value is a blank, a comma or a
closing bracket, and a scan takes these in either mode. -/

/-- **The reader of an item keeps the depth.** -/
def KeepsDepth (item : Reader Value) : Prop :=
  ∀ d bs v rest, item bs = .ok (v, rest) →
    ∃ m, Mode.Resting m ∧ Leads ⟨d, .outside⟩ bs ⟨d, m⟩ rest

theorem readScalar_leads : KeepsDepth readScalar := by
  intro d bs v rest h
  -- The words `null`, `true` and `false` have no brackets and no quotation marks.
  rcases readScalar_cases h with
    ⟨-, rfl⟩ | ⟨-, rfl⟩ | ⟨-, rfl⟩ | ⟨s, tail, -, rfl, hs⟩ | ⟨n, -, hn⟩
  · exact ⟨.outside, .inl rfl, .plain (List.all_eq_true.1 rfl) d rest⟩
  · exact ⟨.outside, .inl rfl, .plain (List.all_eq_true.1 rfl) d rest⟩
  · exact ⟨.outside, .inl rfl, .plain (List.all_eq_true.1 rfl) d rest⟩
  · exact ⟨.afterString, .inr rfl, .cons rfl (readString_leads d hs)⟩
  · exact ⟨.outside, .inl rfl, readNumber_leads d hn⟩

section
variable {α : Type} {list : Reader (List α)} {more : Nat → Reader (List α)} {element : Reader α}
  {close : UInt8}

theorem Loop.more_leads (loop : Loop list more element close) (hclose : isClosing close = true)
    (d : Nat) (helement : ∀ bs a rest, element bs = .ok (a, rest) →
      ∃ m, Mode.Resting m ∧ Leads ⟨d + 1, .outside⟩ bs ⟨d + 1, m⟩ rest)
    {rounds : Nat} {bs rest : Bytes} {as : List α} {m : Mode} (hm : m.Resting)
    (h : more rounds bs = .ok (as, rest)) : Leads ⟨d + 1, m⟩ bs ⟨d, .outside⟩ rest := by
  -- By induction on the rounds. The mode varies, since each element may end right after a string.
  induction rounds generalizing bs as m with
  | zero => exact absurd h loop.more_zero
  | succ rounds ih =>
      have hblanks := Leads.blanks bs (d + 1) hm
      rcases loop.more_cases h with ⟨hend, -⟩ | ⟨mid, a, mid', as', hcomma, ha, has, -⟩
      · rw [hend] at hblanks
        exact hblanks.trans (.cons (Place.step_closing hclose d hm) (.refl _ _))
      · rw [hcomma] at hblanks
        obtain ⟨m', hm', hleads⟩ := helement _ _ _ ha
        exact hblanks.trans (.cons (Place.step_comma (d + 1) hm) (hleads.trans (ih hm' has)))

/-- **A list leads one level up**, by the byte that closes it. -/
theorem Loop.list_leads (loop : Loop list more element close) (hclose : isClosing close = true)
    (d : Nat) (helement : ∀ bs a rest, element bs = .ok (a, rest) →
      ∃ m, Mode.Resting m ∧ Leads ⟨d + 1, .outside⟩ bs ⟨d + 1, m⟩ rest)
    {bs rest : Bytes} {as : List α} (h : list bs = .ok (as, rest)) :
    Leads ⟨d + 1, .outside⟩ bs ⟨d, .outside⟩ rest := by
  rcases loop.list_cases h with ⟨hend, -⟩ | ⟨a, mid, as', ha, has, -⟩
  · have hblanks := Leads.blanks bs (d + 1) (m := .outside) (.inl rfl)
    rw [hend] at hblanks
    exact hblanks.trans (.cons (Place.step_closing hclose d (.inl rfl)) (.refl _ _))
  · obtain ⟨m, hm, hleads⟩ := helement _ _ _ ha
    exact hleads.trans (loop.more_leads hclose d helement hm has)

end

section
variable {item : Reader Value}

theorem readItems_leads (hitem : KeepsDepth item) {bs rest : Bytes} {vs : List Value} (d : Nat)
    (h : readItems item bs = .ok (vs, rest)) :
    Leads ⟨d + 1, .outside⟩ bs ⟨d, .outside⟩ rest :=
  (loop_items item).list_leads (by decide) d (hitem (d + 1)) h

theorem readMember_leads (hitem : KeepsDepth item) {bs rest : Bytes} {member : String × Value}
    (d : Nat) (h : readMember item bs = .ok (member, rest)) :
    ∃ m, Mode.Resting m ∧ Leads ⟨d, .inString⟩ bs ⟨d, m⟩ rest := by
  obtain ⟨afterKey, atValue, hkey, hcolon, hv⟩ := readMember_cases h
  -- The colon takes the scan outside again.
  have hblanks := Leads.blanks afterKey d (m := .afterString) (.inr rfl)
  rw [hcolon] at hblanks
  obtain ⟨m, hm, hleads⟩ := hitem d _ _ _ hv
  exact ⟨m, hm, (readString_leads d hkey).trans (hblanks.trans (.cons rfl hleads))⟩

theorem readMembers_leads (hitem : KeepsDepth item) {bs rest : Bytes}
    {ms : List (String × Value)} (d : Nat) (h : readMembers item bs = .ok (ms, rest)) :
    Leads ⟨d + 1, .outside⟩ bs ⟨d, .outside⟩ rest := by
  refine (loop_members item).list_leads (by decide) d (fun bs member rest hkeyed => ?_) h
  obtain ⟨key, hquote, hmember⟩ := readKeyed_eq_ok.1 hkeyed
  have hblanks := Leads.blanks bs (d + 1) (m := .outside) (.inl rfl)
  rw [hquote] at hblanks
  obtain ⟨m, hm, hleads⟩ := readMember_leads hitem (d + 1) hmember
  exact ⟨m, hm, hblanks.trans (.cons rfl hleads)⟩

end

/-- **A value leads back to its own depth.** -/
theorem readValue_leads (nesting : Nat) : KeepsDepth (readValue nesting) := by
  -- By induction on the levels the reader may still open.
  induction nesting using Nat.strongRecOn with
  | ind nesting ih =>
      intro d bs v rest h
      have hblanks := Leads.blanks bs d (m := .outside) (.inl rfl)
      rcases readValue_cases h with hscalar | ⟨less, tail, rfl, hlist⟩
      · obtain ⟨m, hm, hleads⟩ := readScalar_leads d _ _ _ hscalar
        exact ⟨m, hm, hblanks.trans hleads⟩
      · have hitem := ih less (Nat.lt_succ_self less)
        rcases hlist with ⟨hopen, vs, hvs, -⟩ | ⟨hopen, ms, hms, -⟩
        · rw [hopen] at hblanks
          exact ⟨.outside, .inl rfl, hblanks.trans (.cons rfl (readItems_leads hitem d hvs))⟩
        · rw [hopen] at hblanks
          exact ⟨.outside, .inl rfl, hblanks.trans (.cons rfl (readMembers_leads hitem d hms))⟩

end ViewLink.Json
