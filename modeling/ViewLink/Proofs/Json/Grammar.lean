import ViewLink.Proofs.Json.Numerals

/-!
# The grammar of JSON text

What JSON text is can be said without a reader. A value is a scalar, or it is an array or an object
of values, and a text nests a limited number of these. The grammar says for a text and a value that
the text denotes the value; its rules follow the kinds of values, and around the commas, colons and
brackets there may be blanks.

The reader accepts the texts of the grammar and nothing else (`read_eq_ok`). What makes this a proof
by cases is one notion, `Reads`: a reader takes in some blanks and a text of the grammar, and with
such a text before it, it does not fail. It is enough to go along the elements of a list once, since
arrays and objects are read by loops of one shape.

A number beyond the largest double has no value, so a text with such a number denotes nothing.

## Main definitions

* `ScalarText`, `ListText`, `MemberText`, `ValueText` — the grammar of values;
* `JsonText` — a whole text;
* `Reads` — a reader of the texts of a grammar, `SteadyLoop` — a loop that does not fail on them.
-/

set_option autoImplicit false

namespace ViewLink.Json

/-! ## The grammar -/

/-- Blanks and nothing else. -/
def Blanks (ws : Bytes) : Prop := ∀ b ∈ ws, isBlank b = true

/-- **A scalar.** -/
inductive ScalarText : Bytes → Value → Prop
  | null : ScalarText [0x6E, 0x75, 0x6C, 0x6C] .null
  | trueWord : ScalarText [0x74, 0x72, 0x75, 0x65] (.bool true)
  | falseWord : ScalarText [0x66, 0x61, 0x6C, 0x73, 0x65] (.bool false)
  | number {t : Bytes} {n : Number} : NumberText t n → ScalarText t (.number n)
  | string {body : Bytes} {s : String} : CharsText body s.toList →
      ScalarText (Ascii.quote :: (body ++ [Ascii.quote])) (.string s)

section
variable {α : Type} (element : Bytes → α → Prop) (close : UInt8)

/-- **The elements after the first one**, each behind a comma, and the byte that closes the list. -/
inductive MoreText : Bytes → List α → Prop
  | close {ws : Bytes} : Blanks ws → MoreText (ws ++ [close]) []
  | more {ws ws' t more : Bytes} {a : α} {as : List α} : Blanks ws → Blanks ws' → element t a →
      MoreText more as → MoreText (ws ++ Ascii.comma :: (ws' ++ (t ++ more))) (a :: as)

/-- **The elements of a list** and the byte that closes it. -/
inductive ListText : Bytes → List α → Prop
  | empty {ws : Bytes} : Blanks ws → ListText (ws ++ [close]) []
  | some {ws t more : Bytes} {a : α} {as : List α} : Blanks ws → element t a →
      MoreText element close more as → ListText (ws ++ (t ++ more)) (a :: as)

end

/-- **A member of an object**: its key, a colon and its value. -/
inductive MemberText (value : Bytes → Value → Prop) : Bytes → String × Value → Prop
  | mk {body ws ws' t : Bytes} {k : String} {v : Value} : CharsText body k.toList → Blanks ws →
      Blanks ws' → value t v →
      MemberText value
        (Ascii.quote :: (body ++ Ascii.quote :: (ws ++ Ascii.colon :: (ws' ++ t)))) (k, v)

/-- **A scalar, or an array or an object of given values.** Of the members with one key the last
counts. -/
inductive NestedText (value : Bytes → Value → Prop) : Bytes → Value → Prop
  | scalar {t : Bytes} {v : Value} : ScalarText t v → NestedText value t v
  | array {t : Bytes} {vs : List Value} : ListText value Ascii.closeBracket t vs →
      NestedText value (Ascii.openBracket :: t) (.array vs)
  | object {t : Bytes} {ms : List (String × Value)} :
      ListText (MemberText value) Ascii.closeBrace t ms →
      NestedText value (Ascii.openBrace :: t) (.ofPairs ms)

/-- **A value that nests at most so many arrays and objects.** -/
def ValueText : Nat → Bytes → Value → Prop
  | 0 => ScalarText
  | nesting + 1 => NestedText (ValueText nesting)

/-- **A whole text** that nests at most so many arrays and objects. -/
inductive JsonText (nesting : Nat) : Bytes → Value → Prop
  | mk {ws t ws' : Bytes} {v : Value} : Blanks ws → ValueText nesting t v → Blanks ws' →
      JsonText nesting (ws ++ (t ++ ws')) v

/-! ## Blanks -/

theorem skipBlank_append {ws : Bytes} (h : Blanks ws) (bs : Bytes) :
    skipBlank (ws ++ bs) = skipBlank bs :=
  List.dropWhile_append_of_pos h

theorem skipBlank_blanks {ws : Bytes} (h : Blanks ws) {b : UInt8} (hb : isBlank b = false)
    (bs : Bytes) : skipBlank (ws ++ b :: bs) = b :: bs := by
  rw [skipBlank_append h, skipBlank_cons hb]

theorem skipBlank_eq_nil {bs : Bytes} : skipBlank bs = [] ↔ Blanks bs := List.dropWhile_eq_nil_iff

theorem exists_blanks (bs : Bytes) : ∃ ws, Blanks ws ∧ bs = ws ++ skipBlank bs :=
  ⟨bs.takeWhile isBlank, List.all_eq_true.1 List.all_takeWhile,
    List.takeWhile_append_dropWhile.symm⟩

theorem skipBlank_eq_cons {bs rest : Bytes} {b : UInt8} (h : skipBlank bs = b :: rest) :
    ∃ ws, Blanks ws ∧ bs = ws ++ b :: rest := by
  obtain ⟨ws, hws, hbs⟩ := exists_blanks bs
  exact ⟨ws, hws, by rw [← h, ← hbs]⟩

theorem not_continuesNumber_of_isBlank {b : UInt8} (h : isBlank b = true) :
    continuesNumber b = false := by
  simp only [isBlank, Bool.or_eq_true, beq_iff_eq] at h
  rcases h with ((rfl | rfl) | rfl) | rfl <;> decide

theorem apart_blanks {ws bs : Bytes} (h : Blanks ws) (hbs : Apart bs) : Apart (ws ++ bs) := by
  cases ws with
  | nil => exact hbs
  | cons b ws => exact apart_cons (not_continuesNumber_of_isBlank (h b (by simp))) _

/-! ## Scalars -/

/-- The first byte of a scalar is no blank and no bracket. -/
theorem ScalarText.head {t : Bytes} {v : Value} (h : ScalarText t v) :
    ∃ b tail, t = b :: tail ∧ isBlank b = false ∧ isOpening b = false ∧ isClosing b = false := by
  cases h with
  | null => exact ⟨_, _, rfl, by decide, by decide, by decide⟩
  | trueWord => exact ⟨_, _, rfl, by decide, by decide, by decide⟩
  | falseWord => exact ⟨_, _, rfl, by decide, by decide, by decide⟩
  | number hn =>
      obtain ⟨b, tail, rfl, hb⟩ := hn.head
      have hnumeric := numericByte_of_head hb
      have hne : ∀ c, ¬ NumericByte c → b ≠ c := by
        rintro c hc rfl
        exact hc hnumeric
      refine ⟨b, tail, rfl, ?_, ?_, ?_⟩
      · exact not_blank_of_numeric hnumeric
      · simp [isOpening, hne Ascii.openBracket (by decide), hne Ascii.openBrace (by decide)]
      · simp [isClosing, hne Ascii.closeBracket (by decide), hne Ascii.closeBrace (by decide)]
  | string => exact ⟨_, _, rfl, by decide, by decide, by decide⟩

theorem readScalar_sound {bs rest : Bytes} {v : Value} (h : readScalar bs = .ok (v, rest)) :
    ∃ t, ScalarText t v ∧ bs = t ++ rest := by
  rcases readScalar_cases h with
    ⟨rfl, hbs⟩ | ⟨rfl, hbs⟩ | ⟨rfl, hbs⟩ | ⟨s, tail, rfl, rfl, hs⟩ | ⟨n, rfl, hn⟩
  · exact ⟨_, .null, hbs⟩
  · exact ⟨_, .trueWord, hbs⟩
  · exact ⟨_, .falseWord, hbs⟩
  · obtain ⟨body, hbody, rfl⟩ := readString_eq_ok.1 hs
    exact ⟨_, .string hbody, by simp⟩
  · obtain ⟨t, ht, hbs⟩ := readNumber_sound hn
    exact ⟨t, .number ht, hbs⟩

theorem readScalar_complete {t more : Bytes} {v : Value} (h : ScalarText t v)
    (hmore : Apart more) : readScalar (t ++ more) = .ok (v, more) := by
  cases h with
  | null => rfl
  | trueWord => rfl
  | falseWord => rfl
  | number hn =>
      have hread := readNumber_complete hn hmore
      obtain ⟨b, tail, rfl, hb⟩ := hn.head
      rw [List.cons_append] at hread ⊢
      rw [readScalar_cons (numericByte_of_head hb), if_pos (by simpa using hb), hread]
      rfl
  | @string body s hbody =>
      have hread : readString (body ++ Ascii.quote :: more) = .ok (s, more) :=
        readString_eq_ok.2 ⟨body, hbody, rfl⟩
      rw [List.cons_append, List.append_assoc, List.singleton_append, readScalar,
        if_neg (by decide), if_neg (by decide), if_neg (by decide), if_pos rfl, hread]
      rfl

/-! ## Readers and grammars -/

variable {α : Type}

/-- **The reader reads the texts of a grammar**, with blanks before them. -/
structure Reads (reader : Reader α) (text : Bytes → α → Prop) : Prop where
  /-- A text begins with something else than a blank or a closing bracket. -/
  head : ∀ {t a}, text t a →
    ∃ b tail, t = b :: tail ∧ isBlank b = false ∧ isClosing b = false
  /-- What is read is a text. -/
  sound : ∀ {bs a rest}, reader bs = .ok (a, rest) →
    ∃ ws t, Blanks ws ∧ text t a ∧ bs = ws ++ (t ++ rest)
  /-- A text is read, unless what follows goes on with it. -/
  complete : ∀ {ws t a more}, Blanks ws → text t a → Apart more →
    reader (ws ++ (t ++ more)) = .ok (a, more)

/-- **A loop that reads on.** It does not fail where a list ends or an element has been read. -/
structure SteadyLoop (list : Reader (List α)) (more : Nat → Reader (List α)) (item : Reader α)
    (close : UInt8) : Prop extends Loop list more item close where
  /-- The list ends with a bracket. -/
  closing : isClosing close = true
  /-- The list is empty. -/
  list_close : ∀ {bs rest}, skipBlank bs = close :: rest → list bs = .ok ([], rest)
  /-- The list has a first element. -/
  list_item : ∀ {bs mid rest a as}, item bs = .ok (a, mid) →
    more (mid.length + 1) mid = .ok (as, rest) → list bs = .ok (a :: as, rest)
  /-- The list ends here. -/
  more_close : ∀ {rounds bs rest}, skipBlank bs = close :: rest →
    more (rounds + 1) bs = .ok ([], rest)
  /-- There is another element. -/
  more_item : ∀ {rounds bs mid mid' rest a as}, skipBlank bs = Ascii.comma :: mid →
    item mid = .ok (a, mid') → more rounds mid' = .ok (as, rest) →
      more (rounds + 1) bs = .ok (a :: as, rest)

section
variable {list : Reader (List α)} {more : Nat → Reader (List α)} {item : Reader α} {close : UInt8}
  {text : Bytes → α → Prop}

theorem not_blank_of_isClosing {b : UInt8} (h : isClosing b = true) : isBlank b = false := by
  simp only [isClosing, Bool.or_eq_true, beq_iff_eq] at h
  rcases h with rfl | rfl <;> decide

theorem not_continuesNumber_of_isClosing {b : UInt8} (h : isClosing b = true) :
    continuesNumber b = false := by
  simp only [isClosing, Bool.or_eq_true, beq_iff_eq] at h
  rcases h with rfl | rfl <;> decide

/-- What follows an element does not go on with it. -/
theorem MoreText.apart (hclose : isClosing close = true) {t : Bytes} {as : List α}
    (h : MoreText text close t as) (rest : Bytes) : Apart (t ++ rest) := by
  cases h with
  | close hws =>
      rw [List.append_assoc]
      exact apart_blanks hws (apart_cons (not_continuesNumber_of_isClosing hclose) _)
  | more hws =>
      rw [List.append_assoc]
      exact apart_blanks hws (apart_cons (by decide) _)

/-- Every element takes a byte at least, so the bytes suffice for the rounds. -/
theorem MoreText.length_lt {t : Bytes} {as : List α} (h : MoreText text close t as) :
    as.length < t.length := by
  induction h with
  | close => simp
  | more _ _ _ _ ih =>
      simp only [List.length_cons, List.length_append] at ih ⊢
      omega

theorem Loop.more_sound (loop : Loop list more item close) (hitem : Reads item text)
    {rounds : Nat} {bs rest : Bytes} {as : List α} (h : more rounds bs = .ok (as, rest)) :
    ∃ t, MoreText text close t as ∧ bs = t ++ rest := by
  induction rounds generalizing bs as with
  | zero => exact absurd h loop.more_zero
  | succ rounds ih =>
      rcases loop.more_cases h with ⟨hend, rfl⟩ | ⟨mid, a, mid', as', hcomma, ha, has, rfl⟩
      · obtain ⟨ws, hws, rfl⟩ := skipBlank_eq_cons hend
        exact ⟨ws ++ [close], .close hws, by simp⟩
      · obtain ⟨ws, hws, rfl⟩ := skipBlank_eq_cons hcomma
        obtain ⟨ws', t, hws', ht, rfl⟩ := hitem.sound ha
        obtain ⟨t', ht', rfl⟩ := ih has
        exact ⟨_, .more hws hws' ht ht', by simp⟩

theorem SteadyLoop.more_complete (loop : SteadyLoop list more item close)
    (hitem : Reads item text) {t : Bytes} {as : List α} (h : MoreText text close t as)
    {rounds : Nat} (hrounds : as.length < rounds) (rest : Bytes) :
    more rounds (t ++ rest) = .ok (as, rest) := by
  induction h generalizing rounds with
  | @close ws hws =>
      obtain ⟨rounds, rfl⟩ := Nat.exists_eq_succ_of_ne_zero (Nat.ne_zero_of_lt hrounds)
      have hend : skipBlank (ws ++ close :: rest) = close :: rest :=
        skipBlank_blanks hws (not_blank_of_isClosing loop.closing) rest
      rw [List.append_assoc, List.singleton_append]
      exact loop.more_close hend
  | @more ws ws' t more' a as hws hws' ht hmore ih =>
      obtain ⟨rounds, rfl⟩ := Nat.exists_eq_succ_of_ne_zero (Nat.ne_zero_of_lt hrounds)
      have hcomma : skipBlank (ws ++ Ascii.comma :: (ws' ++ (t ++ (more' ++ rest))))
          = Ascii.comma :: (ws' ++ (t ++ (more' ++ rest))) :=
        skipBlank_blanks hws (by decide) _
      have ha := hitem.complete hws' ht (hmore.apart loop.closing rest)
      simp only [List.append_assoc, List.cons_append]
      exact loop.more_item hcomma ha (ih (Nat.lt_of_succ_lt_succ hrounds))

/-- **The loops read the lists of the grammar and nothing else.** -/
theorem SteadyLoop.reads (loop : SteadyLoop list more item close) (hitem : Reads item text)
    (bs rest : Bytes) (as : List α) :
    list bs = .ok (as, rest) ↔ ∃ t, ListText text close t as ∧ bs = t ++ rest := by
  constructor
  · intro h
    rcases loop.list_cases h with ⟨hend, rfl⟩ | ⟨a, mid, as', ha, has, rfl⟩
    · obtain ⟨ws, hws, rfl⟩ := skipBlank_eq_cons hend
      exact ⟨ws ++ [close], .empty hws, by simp⟩
    · obtain ⟨ws, t, hws, ht, rfl⟩ := hitem.sound ha
      obtain ⟨t', ht', rfl⟩ := loop.more_sound hitem has
      exact ⟨_, .some hws ht ht', by simp⟩
  · rintro ⟨_, h, rfl⟩
    cases h with
    | empty hws =>
        rw [List.append_assoc, List.singleton_append]
        exact loop.list_close (skipBlank_blanks hws (not_blank_of_isClosing loop.closing) rest)
    | @some ws t more' a as hws ht hmore =>
        have hrounds : as.length < (more' ++ rest).length + 1 := by
          have := hmore.length_lt
          rw [List.length_append]
          omega
        have ha := hitem.complete hws ht (hmore.apart loop.closing rest)
        simp only [List.append_assoc]
        exact loop.list_item ha (loop.more_complete hitem hmore hrounds rest)

end

/-- Where a reader of texts reads something, no closing bracket comes next. -/
theorem Reads.head_ne {reader : Reader α} {text : Bytes → α → Prop} (h : Reads reader text)
    {bs : Bytes} {r : α × Bytes} (hr : reader bs = .ok r) {c : UInt8} (hc : isClosing c = true) :
    ∃ b tail, skipBlank bs = b :: tail ∧ b ≠ c := by
  obtain ⟨ws, t, hws, ht, rfl⟩ := h.sound hr
  obtain ⟨b, tail, rfl, hblank, hclosing⟩ := h.head ht
  refine ⟨b, tail ++ r.2, skipBlank_blanks hws hblank _, ?_⟩
  rintro rfl
  rw [hc] at hclosing
  cases hclosing

/-! ## Arrays -/

section
variable {item : Reader Value} {value : Bytes → Value → Prop}

/-- **The loop of arrays reads on**, because an item begins with no closing bracket. -/
theorem steadyLoop_items (hitem : Reads item value) :
    SteadyLoop (readItems item) (readMoreItems item) item Ascii.closeBracket where
  toLoop := loop_items item
  closing := by decide
  list_close := by
    intro bs rest hend
    rw [readItems, hend]
    rfl
  list_item := by
    intro bs mid rest v vs hv hvs
    obtain ⟨b, tail, hb, hne⟩ := hitem.head_ne hv (c := Ascii.closeBracket) (by decide)
    rw [readItems_of_ne hb hne]
    exact bind_eq_ok.2 ⟨_, hv, bind_eq_ok.2 ⟨_, hvs, rfl⟩⟩
  more_close := by
    intro rounds bs rest hend
    rw [readMoreItems, hend]
    rfl
  more_item := by
    intro rounds bs mid mid' rest v vs hcomma hv hvs
    obtain ⟨b, tail, hb, hne⟩ := hitem.head_ne hv (c := Ascii.closeBracket) (by decide)
    rw [readMoreItems_of_comma hcomma hb hne]
    exact bind_eq_ok.2 ⟨_, hv, bind_eq_ok.2 ⟨_, hvs, rfl⟩⟩

end

/-! ## Objects -/

section
variable {item : Reader Value} {value : Bytes → Value → Prop}

/-- **The loop of objects reads on**, because a member begins with a quotation mark. -/
theorem steadyLoop_members (item : Reader Value) :
    SteadyLoop (readMembers item) (readMoreMembers item) (readKeyed item) Ascii.closeBrace where
  toLoop := loop_members item
  closing := by decide
  list_close := by
    intro bs rest hend
    rw [readMembers, hend]
    rfl
  list_item := by
    intro bs mid rest m ms hkeyed hms
    obtain ⟨key, hquote, hm⟩ := readKeyed_eq_ok.1 hkeyed
    rw [readMembers_of_quote hquote]
    exact bind_eq_ok.2 ⟨_, hm, bind_eq_ok.2 ⟨_, hms, rfl⟩⟩
  more_close := by
    intro rounds bs rest hend
    rw [readMoreMembers, hend]
    rfl
  more_item := by
    intro rounds bs mid mid' rest m ms hcomma hkeyed hms
    obtain ⟨key, hquote, hm⟩ := readKeyed_eq_ok.1 hkeyed
    rw [readMoreMembers_of_comma hcomma hquote]
    exact bind_eq_ok.2 ⟨_, hm, bind_eq_ok.2 ⟨_, hms, rfl⟩⟩

/-- **A member is read when its value is.** -/
theorem reads_member (hitem : Reads item value) : Reads (readKeyed item) (MemberText value) where
  head := by
    intro t m ht
    cases ht
    exact ⟨_, _, rfl, by decide, by decide⟩
  sound := by
    rintro bs ⟨k, v⟩ rest h
    obtain ⟨key, hquote, hm⟩ := readKeyed_eq_ok.1 h
    obtain ⟨afterKey, atValue, hkey, hcolon, hv⟩ := readMember_cases hm
    obtain ⟨ws, hws, rfl⟩ := skipBlank_eq_cons hquote
    obtain ⟨body, hbody, rfl⟩ := readString_eq_ok.1 hkey
    obtain ⟨ws', hws', rfl⟩ := skipBlank_eq_cons hcolon
    obtain ⟨ws'', t, hws'', ht, rfl⟩ := hitem.sound hv
    exact ⟨ws, _, hws, .mk hbody hws' hws'' ht, by simp⟩
  complete := by
    rintro ws t m more hws ht hmore
    obtain @⟨body, ws', ws'', t, k, v, hbody, hws', hws'', hv⟩ := ht
    have hkey : readString (body ++ Ascii.quote :: (ws' ++ Ascii.colon :: (ws'' ++ (t ++ more))))
        = .ok (k, ws' ++ Ascii.colon :: (ws'' ++ (t ++ more))) :=
      readString_eq_ok.2 ⟨body, hbody, rfl⟩
    have hcolon : skipBlank (ws' ++ Ascii.colon :: (ws'' ++ (t ++ more)))
        = Ascii.colon :: (ws'' ++ (t ++ more)) := skipBlank_blanks hws' (by decide) _
    simp only [List.cons_append, List.append_assoc]
    refine readKeyed_eq_ok.2 ⟨_, skipBlank_blanks hws (by decide) _, ?_⟩
    refine bind_eq_ok.2 ⟨_, hkey, ?_⟩
    simp only [hcolon]
    exact bind_eq_ok.2 ⟨_, hitem.complete hws'' hv hmore, rfl⟩

end

/-! ## Values -/

theorem ValueText.scalar {t : Bytes} {v : Value} (h : ScalarText t v) (nesting : Nat) :
    ValueText nesting t v := by
  cases nesting with
  | zero => exact h
  | succ nesting => exact NestedText.scalar h

theorem ValueText.head {nesting : Nat} {t : Bytes} {v : Value} (h : ValueText nesting t v) :
    ∃ b tail, t = b :: tail ∧ isBlank b = false ∧ isClosing b = false := by
  have hscalar : ∀ {t v}, ScalarText t v →
      ∃ b tail, t = b :: tail ∧ isBlank b = false ∧ isClosing b = false := by
    intro t v ht
    obtain ⟨b, tail, rfl, hblank, -, hclosing⟩ := ht.head
    exact ⟨b, tail, rfl, hblank, hclosing⟩
  cases nesting with
  | zero => exact hscalar h
  | succ nesting =>
      cases h with
      | scalar ht => exact hscalar ht
      | array => exact ⟨_, _, rfl, by decide, by decide⟩
      | object => exact ⟨_, _, rfl, by decide, by decide⟩

theorem readValue_blanks (nesting : Nat) {ws : Bytes} (h : Blanks ws) (bs : Bytes) :
    readValue nesting (ws ++ bs) = readValue nesting bs := by
  cases nesting <;> rw [readValue, readValue, skipBlank_append h]

theorem readValue_scalarText (nesting : Nat) {t more : Bytes} {v : Value} (h : ScalarText t v)
    (hmore : Apart more) : readValue nesting (t ++ more) = .ok (v, more) := by
  have hread := readScalar_complete h hmore
  obtain ⟨b, tail, rfl, hblank, hopening, -⟩ := h.head
  rw [List.cons_append] at hread ⊢
  rw [readValue_scalar hblank hopening, hread]

/-- **A value is read if it is in the grammar**, and nothing else is. -/
theorem reads_value (nesting : Nat) : Reads (readValue nesting) (ValueText nesting) := by
  -- By induction on the levels that may still be opened.
  induction nesting using Nat.strongRecOn with
  | ind nesting ih =>
      refine ⟨ValueText.head, ?_, ?_⟩
      · intro bs v rest h
        obtain ⟨ws, hws, hbs⟩ := exists_blanks bs
        rcases readValue_cases h with hscalar | ⟨less, tail, rfl, hlist⟩
        · obtain ⟨t, ht, hrest⟩ := readScalar_sound hscalar
          exact ⟨ws, t, hws, .scalar ht nesting, by rw [← hrest, ← hbs]⟩
        · have hitem := ih less (Nat.lt_succ_self less)
          rcases hlist with ⟨hopen, vs, hvs, rfl⟩ | ⟨hopen, ms, hms, rfl⟩
          · obtain ⟨t, ht, rfl⟩ := ((steadyLoop_items hitem).reads hitem _ _ _).1 hvs
            exact ⟨ws, _, hws, NestedText.array ht, by rw [hbs, hopen]; rfl⟩
          · obtain ⟨t, ht, rfl⟩ :=
              ((steadyLoop_members _).reads (reads_member hitem) _ _ _).1 hms
            exact ⟨ws, _, hws, NestedText.object ht, by rw [hbs, hopen]; rfl⟩
      · intro ws t v more hws ht hmore
        rw [readValue_blanks nesting hws]
        cases nesting with
        | zero => exact readValue_scalarText 0 ht hmore
        | succ less =>
            have hitem := ih less (Nat.lt_succ_self less)
            cases ht with
            | scalar ht => exact readValue_scalarText _ ht hmore
            | array ht =>
                have hvs := ((steadyLoop_items hitem).reads hitem _ more _).2 ⟨_, ht, rfl⟩
                rw [List.cons_append, readValue, skipBlank_cons (by decide)]
                exact bind_eq_ok.2 ⟨_, hvs, rfl⟩
            | object ht =>
                have hms := ((steadyLoop_members _).reads (reads_member hitem) _ more _).2
                  ⟨_, ht, rfl⟩
                rw [List.cons_append, readValue, skipBlank_cons (by decide)]
                exact bind_eq_ok.2 ⟨_, hms, rfl⟩

/-- **The items of an array**, up to its closing bracket. -/
theorem reads_items (nesting : Nat) (bs rest : Bytes) (vs : List Value) :
    readItems (readValue nesting) bs = .ok (vs, rest)
      ↔ ∃ t, ListText (ValueText nesting) Ascii.closeBracket t vs ∧ bs = t ++ rest :=
  (steadyLoop_items (reads_value nesting)).reads (reads_value nesting) bs rest vs

/-- **A whole text is read if it is in the grammar**, and nothing else is. So a text denotes one
value at most. -/
theorem read_eq_ok {bs : Bytes} {v : Value} :
    Value.read bs = .ok v ↔ JsonText maxNesting bs v := by
  have hvalue := reads_value maxNesting
  rw [Value.read, bind_eq_ok]
  constructor
  · rintro ⟨⟨v', rest⟩, hv, h⟩
    simp only at h
    split at h
    · next hend =>
        cases h
        obtain ⟨ws, t, hws, ht, rfl⟩ := hvalue.sound hv
        exact .mk hws ht (skipBlank_eq_nil.1 hend)
    · cases h
  · intro h
    obtain @⟨ws, t, ws', v, hws, ht, hws'⟩ := h
    have hapart : Apart ws' := by simpa using apart_blanks hws' apart_nil
    refine ⟨(v, ws'), hvalue.complete hws ht hapart, ?_⟩
    simp only [skipBlank_eq_nil.2 hws']
    rfl

end ViewLink.Json
