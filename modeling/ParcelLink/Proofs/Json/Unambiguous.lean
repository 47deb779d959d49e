import ParcelLink.Json.Grammar

/-!
# A JSON text says one tree

No text can be read in two ways. Where a rule goes on for as long as there are characters of a
class, blanks or digits, what is behind it begins with none of them (`Json.Grammar.span_unique`);
where there are several rules, the next character tells which of them it is. What may stand behind a
value is a blank, a comma or a closing bracket, and none of these can go on with a number or begin a
value. So two readings of a text agree in what they say and in where they end
(`Json.Grammar.Value.unique`), and a text as a whole says one tree at most (`Json.Says.unique`).

## Main definitions

* `Json.Grammar.StartsNot`: texts that do not begin with a character of a class.
* `Json.Grammar.Stops`, `Json.Grammar.Ends`: texts that may stand behind a value, and behind a value
  and its blanks.
-/

namespace ParcelLink.Json

namespace Grammar

/-! ### What stands behind -/

/-- A text does not begin with a character of a class. -/
def StartsNot (p : Char → Bool) (text : List Char) : Prop := ∀ c ∈ text.head?, p c = false

theorem startsNot_cons {p : Char → Bool} {c : Char} {text : List Char} :
    StartsNot p (c :: text) ↔ p c = false := by
  simp [StartsNot]

/-- The characters that may stand behind a value. -/
def stoppers : List Char := blanks ++ [',', ']', '\x7d']

/-- A text that may stand behind a value. -/
def Stops (text : List Char) : Prop := ∀ c ∈ text.head?, c ∈ stoppers

/-- A text that may stand behind a value and its blanks. -/
def Ends (text : List Char) : Prop := ∀ c ∈ text.head?, c ∈ [',', ']', '\x7d']

theorem Stops.startsNot {p : Char → Bool} (hp : stoppers.any p = false) {text : List Char}
    (h : Stops text) : StartsNot p text :=
  fun c hc ↦ eq_false_of_ne_true (List.any_eq_false.1 hp c (h c hc))

theorem ends_of_head {c : Char} (hc : c ∈ [',', ']', '\x7d']) {text : List Char}
    (h : text.head? = some c) : Ends text := by
  intro c' hc'
  rw [h] at hc'
  exact Option.some.inj hc' ▸ hc

theorem ends_comma (text : List Char) : Ends (',' :: text) := ends_of_head (by decide) rfl

/-- A text that begins with a closing character does not begin with a comma. -/
theorem ne_comma {c : Char} (hc : c ≠ ',') {text behind : List Char} (h : text.head? = some c) :
    text ≠ ',' :: behind := by
  rintro rfl
  exact hc (Option.some.inj h).symm

theorem Ends.startsNot_blank {text : List Char} (h : Ends text) : StartsNot (· ∈ blanks) text := by
  have hnone : [',', ']', '\x7d'].any (· ∈ blanks) = false := by decide
  exact fun c hc ↦ eq_false_of_ne_true (List.any_eq_false.1 hnone c (h c hc))

theorem Ends.stops {after text : List Char} (ha : Blank after) (h : Ends text) :
    Stops (after ++ text) := by
  cases after with
  | nil => exact fun c hc ↦ List.mem_append_right blanks (h c hc)
  | cons b after =>
    intro c hc
    obtain rfl : b = c := Option.some.inj hc
    exact List.mem_append_left _ (ha b List.mem_cons_self)

/-- **Where the characters of a class end is plain**, if none stands behind them. -/
theorem span_unique {p : Char → Bool} {front front' behind behind' : List Char}
    (hf : ∀ c ∈ front, p c = true) (hf' : ∀ c ∈ front', p c = true) (hb : StartsNot p behind)
    (hb' : StartsNot p behind') (h : front ++ behind = front' ++ behind') :
    front = front' ∧ behind = behind' := by
  have htake : ∀ {front behind : List Char}, (∀ c ∈ front, p c = true) → StartsNot p behind →
      (front ++ behind).takeWhile p = front := by
    intro front behind hf hb
    rw [List.takeWhile_append_of_pos hf]
    cases behind with
    | nil => exact List.append_nil front
    | cons c behind => rw [List.takeWhile_cons, startsNot_cons.1 hb]; exact List.append_nil front
  have hfront : front = front' := by rw [← htake hf hb, h, htake hf' hb']
  subst hfront
  exact ⟨rfl, List.append_cancel_left h⟩

/-- Blanks in front of something else. -/
theorem blank_unique {before before' text text' : List Char} (hb : Blank before)
    (hb' : Blank before') (ht : StartsNot (· ∈ blanks) text) (ht' : StartsNot (· ∈ blanks) text')
    (h : before ++ text = before' ++ text') : before = before' ∧ text = text' :=
  span_unique (fun c hc ↦ decide_eq_true (hb c hc)) (fun c hc ↦ decide_eq_true (hb' c hc)) ht ht' h

/-- Blanks before a closing character are no blanks before anything else. -/
theorem append_ne_closing {closing c : Char} (hclosing : closing ∉ blanks)
    {before between inner behind : List Char} (hb : Blank before) (hb' : Blank between)
    (hc : c ∉ blanks) (hne : c ≠ closing) :
    before ++ c :: inner ≠ between ++ closing :: behind := by
  intro h
  obtain ⟨-, htext⟩ := blank_unique hb hb' (startsNot_cons.2 (decide_eq_false hc))
    (startsNot_cons.2 (decide_eq_false hclosing)) h
  exact hne (List.cons.inj htext).1

/-! ### Numbers -/

theorem Digits.exists_cons {digits : List Char} (h : Digits digits) :
    ∃ d rest, digits = d :: rest ∧ d.isDigit = true := by
  obtain ⟨d, rest, rfl⟩ := List.exists_cons_of_ne_nil h.1
  exact ⟨d, rest, rfl, h.2 d List.mem_cons_self⟩

/-- Digits come behind a sign, and no sign has digits. -/
theorem sign_unique {signs : List (List Char × ℤ)} {sign sign' text text' : List Char}
    {factor factor' : ℤ} (hsigns : ∀ s ∈ signs, s.1.all (!·.isDigit) = true)
    (hfactors : ∀ s ∈ signs, ∀ s' ∈ signs, s.1 = s'.1 → s.2 = s'.2)
    (hs : (sign, factor) ∈ signs) (hs' : (sign', factor') ∈ signs)
    (ht : StartsNot (!·.isDigit) text) (ht' : StartsNot (!·.isDigit) text')
    (h : sign ++ text = sign' ++ text') : factor = factor' ∧ text = text' := by
  obtain ⟨rfl, rfl⟩ := span_unique (List.all_eq_true.1 (hsigns _ hs))
    (List.all_eq_true.1 (hsigns _ hs')) ht ht' h
  exact ⟨hfactors _ hs _ hs' rfl, rfl⟩

theorem Digits.startsNot {digits : List Char} (h : Digits digits) (rest : List Char) :
    StartsNot (!·.isDigit) (digits ++ rest) := by
  obtain ⟨d, digits, rfl, hd⟩ := h.exists_cons
  rw [List.cons_append, startsNot_cons, hd]
  rfl

theorem Digits.unique {digits digits' rest rest' : List Char} (hd : Digits digits)
    (hd' : Digits digits') (hr : StartsNot Char.isDigit rest) (hr' : StartsNot Char.isDigit rest')
    (h : digits ++ rest = digits' ++ rest') : digits = digits' ∧ rest = rest' :=
  span_unique hd.2 hd'.2 hr hr' h

/-- An exponent begins with a mark, or else there is only what stands behind it. -/
theorem Exponent.startsNot {p : Char → Bool} (hmarks : ['e', 'E'].any p = false)
    (hstoppers : stoppers.any p = false) {e : ℤ} {text rest : List Char}
    (h : Exponent e text rest) (hr : Stops rest) : StartsNot p text := by
  cases h with
  | none => exact hr.startsNot hstoppers
  | digits marked =>
    exact startsNot_cons.2 (eq_false_of_ne_true (List.any_eq_false.1 hmarks _ marked))

theorem Exponent.unique {e e' : ℤ} {text rest rest' : List Char} (h : Exponent e text rest)
    (h' : Exponent e' text rest') (hr : Stops rest) (hr' : Stops rest') :
    e = e' ∧ rest = rest' := by
  have hstop : ∀ {mark : Char} {text : List Char}, mark ∈ ['e', 'E'] → ¬ Stops (mark :: text) := by
    intro mark text hmark hstops
    have hnone : ['e', 'E'].any (· ∈ stoppers) = false := by decide
    exact List.any_eq_false.1 hnone mark hmark (decide_eq_true (hstops mark rfl))
  cases h with
  | none =>
    cases h' with
    | none => exact ⟨rfl, rfl⟩
    | digits marked => exact absurd hr (hstop marked)
  | @digits mark sign digits rest factor marked signed spelled =>
    generalize htext : mark :: (sign ++ (digits ++ rest)) = text at h'
    cases h' with
    | none => exact absurd (htext ▸ hr') (hstop marked)
    | digits marked' signed' spelled' =>
      obtain ⟨-, hrest⟩ := List.cons.inj htext
      obtain ⟨rfl, hdigits⟩ := sign_unique (by decide) (by decide) signed signed'
        (spelled.startsNot _) (spelled'.startsNot _) hrest
      obtain ⟨rfl, rfl⟩ := spelled.unique spelled' (hr.startsNot (by decide))
        (hr'.startsNot (by decide)) hdigits
      exact ⟨rfl, rfl⟩

/-- A fraction begins with a point, or else there is only what stands behind it. -/
theorem Fraction.startsNot_digit {q : ℚ} {text rest : List Char} (h : Fraction q text rest)
    (hr : StartsNot Char.isDigit rest) : StartsNot Char.isDigit text := by
  cases h with
  | none => exact hr
  | digits => exact startsNot_cons.2 (by decide)

theorem Fraction.unique {q q' : ℚ} {text rest rest' : List Char} (h : Fraction q text rest)
    (h' : Fraction q' text rest') (hpoint : StartsNot (· = '.') rest)
    (hpoint' : StartsNot (· = '.') rest') (hdigit : StartsNot Char.isDigit rest)
    (hdigit' : StartsNot Char.isDigit rest') : q = q' ∧ rest = rest' := by
  cases h with
  | none =>
    cases h' with
    | none => exact ⟨rfl, rfl⟩
    | digits => exact absurd (startsNot_cons.1 hpoint) (by decide)
  | @digits digits rest spelled =>
    generalize htext : '.' :: (digits ++ rest) = text at h'
    cases h' with
    | none =>
      rw [← htext] at hpoint'
      exact absurd (startsNot_cons.1 hpoint') (by decide)
    | digits spelled' =>
      obtain ⟨rfl, rfl⟩ := spelled.unique spelled' hdigit hdigit' (List.cons.inj htext).2
      exact ⟨rfl, rfl⟩

theorem Whole.exists_cons {n : Nat} {text rest : List Char} (h : Whole n text rest) :
    ∃ d behind, text = d :: behind ∧ d.isDigit = true := by
  cases h with
  | zero => exact ⟨'0', rest, rfl, rfl⟩
  | digits spelled =>
    obtain ⟨d, digits, rfl, hd⟩ := spelled.exists_cons
    exact ⟨d, digits ++ rest, rfl, hd⟩

theorem Whole.startsNot {n : Nat} {text rest : List Char} (h : Whole n text rest) :
    StartsNot (!·.isDigit) text := by
  obtain ⟨d, behind, rfl, hd⟩ := h.exists_cons
  exact startsNot_cons.2 (by rw [hd]; rfl)

theorem Whole.unique {n n' : Nat} {text rest rest' : List Char} (h : Whole n text rest)
    (h' : Whole n' text rest') (hr : StartsNot Char.isDigit rest)
    (hr' : StartsNot Char.isDigit rest') : n = n' ∧ rest = rest' := by
  -- digits that begin with a zero are that zero
  have hzero : ∀ {digits text rest : List Char}, Digits digits → digits.head? ≠ some '0' →
      '0' :: text ≠ digits ++ rest := by
    intro digits text rest spelled first_ne heq
    obtain ⟨d, digits, rfl, -⟩ := spelled.exists_cons
    exact first_ne (congrArg some (List.cons.inj heq).1.symm)
  cases h with
  | zero =>
    generalize htext : '0' :: rest = text at h'
    cases h' with
    | zero => exact ⟨rfl, (List.cons.inj htext).2⟩
    | digits spelled' first_ne' => exact absurd htext (hzero spelled' first_ne')
  | @digits digits rest spelled first_ne =>
    generalize htext : digits ++ rest = text at h'
    cases h' with
    | zero => exact absurd htext.symm (hzero spelled first_ne)
    | digits spelled' =>
      obtain ⟨rfl, rfl⟩ := spelled.unique spelled' hr hr' htext
      exact ⟨rfl, rfl⟩

/-- **A number is read in one way.** -/
theorem Number.unique {q q' : ℚ} {text rest rest' : List Char} (h : Number q text rest)
    (h' : Number q' text rest') (hr : Stops rest) (hr' : Stops rest') : q = q' ∧ rest = rest' := by
  cases h with
  | @mk sign text behindWhole behindFraction rest factor exponent whole fraction signed hw hf he =>
    generalize htext : sign ++ text = signedText at h'
    cases h' with
    | mk signed' hw' hf' he' =>
      have hdigit := he.startsNot (p := Char.isDigit) (by decide) (by decide) hr
      have hdigit' := he'.startsNot (p := Char.isDigit) (by decide) (by decide) hr'
      have hpoint := he.startsNot (p := (· = '.')) (by decide) (by decide) hr
      have hpoint' := he'.startsNot (p := (· = '.')) (by decide) (by decide) hr'
      obtain ⟨rfl, rfl⟩ := sign_unique (by decide) (by decide) signed signed' hw.startsNot
        hw'.startsNot htext
      obtain ⟨rfl, rfl⟩ := hw.unique hw' (hf.startsNot_digit hdigit) (hf'.startsNot_digit hdigit')
      obtain ⟨rfl, rfl⟩ := hf.unique hf' hpoint hpoint' hdigit hdigit'
      obtain ⟨rfl, rfl⟩ := he.unique he' hr hr'
      exact ⟨rfl, rfl⟩

/-- A number begins with a minus or a digit. -/
theorem Number.exists_cons {q : ℚ} {text rest : List Char} (h : Number q text rest) :
    ∃ c behind, text = c :: behind ∧ (c = '-' || c.isDigit) = true := by
  cases h with
  | @mk sign text behindWhole behindFraction rest factor exponent whole fraction signed hw =>
    obtain ⟨d, behind, rfl, hd⟩ := hw.exists_cons
    rcases List.mem_cons.1 signed with hplain | hminus
    · obtain ⟨rfl, -⟩ := Prod.mk.inj hplain
      exact ⟨d, behind, rfl, by rw [hd, Bool.or_true]⟩
    · obtain ⟨rfl, -⟩ := Prod.mk.inj (List.mem_singleton.1 hminus)
      exact ⟨'-', d :: behind, rfl, rfl⟩

theorem Number.not_cons {c : Char} (hc : (c = '-' || c.isDigit) = false) {q : ℚ}
    {text rest : List Char} : ¬ Number q (c :: text) rest := by
  intro h
  obtain ⟨c', behind, heq, hc'⟩ := h.exists_cons
  rw [← (List.cons.inj heq).1, hc] at hc'
  cases hc'

/-! ### Strings -/

/-- A character does not begin with a quote. -/
theorem Character.not_quote {c : Char} {text rest : List Char} :
    ¬ Character c ('"' :: text) rest := by
  intro h
  cases h with
  | plain _ ne_quote => exact ne_quote rfl

/-- **A character is read in one way**, whatever stands behind it. -/
theorem Character.unique {c c' : Char} {text rest rest' : List Char} (h : Character c text rest)
    (h' : Character c' text rest') : c = c' ∧ rest = rest' := by
  have hletters : ∀ l ∈ letters, ∀ l' ∈ letters, l.1 = l'.1 → l.2 = l'.2 := by decide
  have hnot : ∀ l ∈ letters, l.1 ≠ 'u' := by decide
  cases h with
  | plain visible ne_quote ne_backslash =>
    cases h' with
    | plain => exact ⟨rfl, rfl⟩
    | letter | unit | pair => exact absurd rfl ne_backslash
  | letter stands =>
    cases h' with
    | plain _ _ ne_backslash => exact absurd rfl ne_backslash
    | letter stands' => exact ⟨hletters _ stands _ stands' rfl, rfl⟩
    | unit | pair => exact absurd rfl (hnot _ stands)
  | unit spelled not_high =>
    cases h' with
    | plain _ _ ne_backslash => exact absurd rfl ne_backslash
    | letter stands' => exact absurd rfl (hnot _ stands')
    | unit spelled' =>
      obtain rfl := Option.some.inj (spelled.symm.trans spelled')
      exact ⟨rfl, rfl⟩
    | pair spelled' _ is_high' =>
      obtain rfl := Option.some.inj (spelled.symm.trans spelled')
      rw [not_high] at is_high'
      cases is_high'
  | pair spelled spelled₂ is_high =>
    cases h' with
    | plain _ _ ne_backslash => exact absurd rfl ne_backslash
    | letter stands' => exact absurd rfl (hnot _ stands')
    | unit spelled' not_high' =>
      obtain rfl := Option.some.inj (spelled.symm.trans spelled')
      rw [is_high] at not_high'
      cases not_high'
    | pair spelled' spelled₂' =>
      obtain rfl := Option.some.inj (spelled.symm.trans spelled')
      obtain rfl := Option.some.inj (spelled₂.symm.trans spelled₂')
      exact ⟨rfl, rfl⟩

theorem Characters.unique {cs cs' text rest rest' : List Char} (h : Characters cs text rest)
    (h' : Characters cs' text rest') : cs = cs' ∧ rest = rest' := by
  induction h generalizing cs' with
  | done =>
    cases h' with
    | done => exact ⟨rfl, rfl⟩
    | more first' => exact absurd first' Character.not_quote
  | more first others ih =>
    cases h' with
    | done => exact absurd first Character.not_quote
    | more first' others' =>
      obtain ⟨rfl, rfl⟩ := first.unique first'
      obtain ⟨rfl, rfl⟩ := ih others'
      exact ⟨rfl, rfl⟩

theorem Quoted.unique {s s' : String} {text rest rest' : List Char} (h : Quoted s text rest)
    (h' : Quoted s' text rest') : s = s' ∧ rest = rest' := by
  cases h with
  | mk characters =>
    cases h' with
    | mk characters' =>
      obtain ⟨rfl, rfl⟩ := characters.unique characters'
      exact ⟨rfl, rfl⟩

/-! ### Values -/

/-- A value does not begin with what may stand behind one. -/
theorem Value.exists_cons {tree : Tree} {text rest : List Char} (h : Value tree text rest) :
    ∃ c behind, text = c :: behind ∧ c ∉ stoppers := by
  cases h with
  | number number =>
    obtain ⟨c, behind, rfl, hc⟩ := number.exists_cons
    have hnone : stoppers.any (fun c ↦ c = '-' || c.isDigit) = false := by decide
    exact ⟨c, behind, rfl, fun hstop ↦ List.any_eq_false.1 hnone c hstop hc⟩
  | null | yes | no | string | noItems | list | noFields | object =>
    exact ⟨_, _, rfl, by decide⟩

/-- What begins with an opening bracket is a list. -/
theorem Value.list_cases {tree : Tree} {text rest : List Char} (h : Value tree ('[' :: text) rest) :
    (∃ between, Blank between ∧ tree = .list [] ∧ text = between ++ ']' :: rest)
      ∨ ∃ items, tree = .list items ∧ Items items text (']' :: rest) := by
  cases h with
  | number number => exact absurd number (Number.not_cons (by decide))
  | noItems blank => exact .inl ⟨_, blank, rfl, rfl⟩
  | list items_text => exact .inr ⟨_, rfl, items_text⟩

/-- What begins with an opening brace is an object. -/
theorem Value.object_cases {tree : Tree} {text rest : List Char}
    (h : Value tree ('\x7b' :: text) rest) :
    (∃ between, Blank between ∧ tree = .object [] ∧ text = between ++ '\x7d' :: rest)
      ∨ ∃ fields, tree = .object fields ∧ Fields fields text ('\x7d' :: rest) := by
  cases h with
  | number number => exact absurd number (Number.not_cons (by decide))
  | noFields blank => exact .inl ⟨_, blank, rfl, rfl⟩
  | object fields_text => exact .inr ⟨_, rfl, fields_text⟩

/-- A value does not begin with a blank. -/
theorem Value.startsNot_blank {tree : Tree} {text rest : List Char} (h : Value tree text rest) :
    StartsNot (· ∈ blanks) text := by
  obtain ⟨c, behind, rfl, hc⟩ := h.exists_cons
  exact startsNot_cons.2 (decide_eq_false fun hblank ↦ hc (List.mem_append_left _ hblank))

theorem Quoted.startsNot_blank {s : String} {text rest : List Char} (h : Quoted s text rest) :
    StartsNot (· ∈ blanks) text := by
  cases h
  exact startsNot_cons.2 (by decide)

/-- Blanks and a closing bracket are no items. -/
theorem Items.ne_closing {items : List Tree} {text rest : List Char} (h : Items items text rest)
    {between behind : List Char} (hb : Blank between) : text ≠ between ++ ']' :: behind := by
  have hnot : ∀ {tree : Tree} {text rest : List Char}, Element tree text rest →
      text ≠ between ++ ']' :: behind := by
    rintro tree _ rest ⟨blank_before, value, -⟩
    obtain ⟨c, _, rfl, hc⟩ := value.exists_cons
    exact append_ne_closing (by decide) blank_before hb
      (fun hblank ↦ hc (List.mem_append_left _ hblank)) fun hclosing ↦ hc (hclosing ▸ by decide)
  cases h with
  | last element => exact hnot element
  | more element => exact hnot element

/-- Blanks and a closing brace are no fields. -/
theorem Fields.ne_closing {fields : List (String × Tree)} {text rest : List Char}
    (h : Fields fields text rest) {between behind : List Char} (hb : Blank between) :
    text ≠ between ++ '\x7d' :: behind := by
  have hnot : ∀ {field : String × Tree} {text rest : List Char}, Field field text rest →
      text ≠ between ++ '\x7d' :: behind := by
    rintro field _ rest ⟨blank_before, quoted, -⟩
    cases quoted
    exact append_ne_closing (by decide) blank_before hb (by decide) (by decide)
  cases h with
  | last field_text => exact hnot field_text
  | more field_text => exact hnot field_text

-- The recursion is on the tree that is said. A value between blanks says the tree of the value, so
-- it counts for one more.
mutual

/-- **A value is read in one way.** -/
theorem Value.unique {tree tree' : Tree} {text rest rest' : List Char} (h : Value tree text rest)
    (h' : Value tree' text rest') (hr : Stops rest) (hr' : Stops rest') :
    tree = tree' ∧ rest = rest' := by
  cases h with
  | null | yes | no =>
    cases h' with
    | number number' => exact absurd number' (Number.not_cons (by decide))
    | _ => exact ⟨rfl, rfl⟩
  | number number =>
    cases h' with
    | number number' =>
      obtain ⟨rfl, rfl⟩ := number.unique number' hr hr'
      exact ⟨rfl, rfl⟩
    | null | yes | no | string | noItems | list | noFields | object =>
      exact absurd number (Number.not_cons (by decide))
  | string quoted =>
    cases h' with
    | number number' => exact absurd number' (Number.not_cons (by decide))
    | string quoted' =>
      obtain ⟨rfl, rfl⟩ := quoted.unique quoted'
      exact ⟨rfl, rfl⟩
  | noItems blank =>
    obtain ⟨between', blank', rfl, htext⟩ | ⟨items', rfl, items_text'⟩ := h'.list_cases
    · obtain ⟨-, hrest⟩ := blank_unique blank blank' (startsNot_cons.2 (by decide))
        (startsNot_cons.2 (by decide)) htext
      exact ⟨rfl, (List.cons.inj hrest).2⟩
    · exact absurd rfl (items_text'.ne_closing blank)
  | list items_text =>
    obtain ⟨between', blank', rfl, htext⟩ | ⟨items', rfl, items_text'⟩ := h'.list_cases
    · exact absurd htext (items_text.ne_closing blank')
    · obtain ⟨rfl, hrest⟩ := items_text.unique items_text' rfl rfl
      exact ⟨rfl, (List.cons.inj hrest).2⟩
  | noFields blank =>
    obtain ⟨between', blank', rfl, htext⟩ | ⟨fields', rfl, fields_text'⟩ := h'.object_cases
    · obtain ⟨-, hrest⟩ := blank_unique blank blank' (startsNot_cons.2 (by decide))
        (startsNot_cons.2 (by decide)) htext
      exact ⟨rfl, (List.cons.inj hrest).2⟩
    · exact absurd rfl (fields_text'.ne_closing blank)
  | object fields_text =>
    obtain ⟨between', blank', rfl, htext⟩ | ⟨fields', rfl, fields_text'⟩ := h'.object_cases
    · exact absurd htext (fields_text.ne_closing blank')
    · obtain ⟨rfl, hrest⟩ := fields_text.unique fields_text' rfl rfl
      exact ⟨rfl, (List.cons.inj hrest).2⟩
termination_by (sizeOf tree, 0)

/-- A value and its blanks are read in one way. -/
theorem Element.unique {tree tree' : Tree} {text rest rest' : List Char}
    (h : Element tree text rest) (h' : Element tree' text rest') (hr : Ends rest)
    (hr' : Ends rest') : tree = tree' ∧ rest = rest' := by
  cases h with
  | @mk tree before inner after rest blank_before value blank_after =>
    generalize htext : before ++ inner = text at h'
    cases h' with
    | mk blank_before' value' blank_after' =>
      obtain ⟨-, rfl⟩ := blank_unique blank_before blank_before' value.startsNot_blank
        value'.startsNot_blank htext
      obtain ⟨rfl, hrest⟩ := value.unique value' (hr.stops blank_after) (hr'.stops blank_after')
      obtain ⟨-, rfl⟩ := blank_unique blank_after blank_after' hr.startsNot_blank
        hr'.startsNot_blank hrest
      exact ⟨rfl, rfl⟩
termination_by (sizeOf tree, 1)

/-- Items in front of a closing bracket are read in one way. -/
theorem Items.unique {items items' : List Tree} {text rest rest' : List Char}
    (h : Items items text rest) (h' : Items items' text rest') (hr : rest.head? = some ']')
    (hr' : rest'.head? = some ']') : items = items' ∧ rest = rest' := by
  have hends := ends_of_head (by decide) hr
  have hends' := ends_of_head (by decide) hr'
  cases h with
  | last element =>
    cases h' with
    | last element' =>
      obtain ⟨rfl, rfl⟩ := element.unique element' hends hends'
      exact ⟨rfl, rfl⟩
    | more element' others' =>
      obtain ⟨-, hcomma⟩ := element.unique element' hends (ends_comma _)
      exact absurd hcomma (ne_comma (by decide) hr)
  | more element others =>
    cases h' with
    | last element' =>
      obtain ⟨-, hcomma⟩ := element.unique element' (ends_comma _) hends'
      exact absurd hcomma.symm (ne_comma (by decide) hr')
    | more element' others' =>
      obtain ⟨rfl, hnext⟩ := element.unique element' (ends_comma _) (ends_comma _)
      obtain rfl := (List.cons.inj hnext).2
      obtain ⟨rfl, rfl⟩ := others.unique others' hr hr'
      exact ⟨rfl, rfl⟩
termination_by (sizeOf items, 0)

/-- A name and its value are read in one way. -/
theorem Field.unique {field field' : String × Tree} {text rest rest' : List Char}
    (h : Field field text rest) (h' : Field field' text rest') (hr : Ends rest)
    (hr' : Ends rest') : field = field' ∧ rest = rest' := by
  cases h with
  | @mk name value before inner after next rest blank_before quoted blank_after element =>
    generalize htext : before ++ inner = text at h'
    cases h' with
    | mk blank_before' quoted' blank_after' element' =>
      obtain ⟨-, rfl⟩ := blank_unique blank_before blank_before' quoted.startsNot_blank
        quoted'.startsNot_blank htext
      obtain ⟨rfl, hnext⟩ := quoted.unique quoted'
      obtain ⟨-, hcolon⟩ := blank_unique blank_after blank_after' (startsNot_cons.2 (by decide))
        (startsNot_cons.2 (by decide)) hnext
      obtain rfl := (List.cons.inj hcolon).2
      obtain ⟨rfl, rfl⟩ := element.unique element' hr hr'
      exact ⟨rfl, rfl⟩
termination_by (sizeOf field, 0)

/-- Fields in front of a closing brace are read in one way. -/
theorem Fields.unique {fields fields' : List (String × Tree)} {text rest rest' : List Char}
    (h : Fields fields text rest) (h' : Fields fields' text rest') (hr : rest.head? = some '\x7d')
    (hr' : rest'.head? = some '\x7d') : fields = fields' ∧ rest = rest' := by
  have hends := ends_of_head (by decide) hr
  have hends' := ends_of_head (by decide) hr'
  cases h with
  | last field_text =>
    cases h' with
    | last field_text' =>
      obtain ⟨rfl, rfl⟩ := field_text.unique field_text' hends hends'
      exact ⟨rfl, rfl⟩
    | more field_text' others' =>
      obtain ⟨-, hcomma⟩ := field_text.unique field_text' hends (ends_comma _)
      exact absurd hcomma (ne_comma (by decide) hr)
  | more field_text others =>
    cases h' with
    | last field_text' =>
      obtain ⟨-, hcomma⟩ := field_text.unique field_text' (ends_comma _) hends'
      exact absurd hcomma.symm (ne_comma (by decide) hr')
    | more field_text' others' =>
      obtain ⟨rfl, hnext⟩ := field_text.unique field_text' (ends_comma _) (ends_comma _)
      obtain rfl := (List.cons.inj hnext).2
      obtain ⟨rfl, rfl⟩ := others.unique others' hr hr'
      exact ⟨rfl, rfl⟩
termination_by (sizeOf fields, 0)

end

end Grammar

/-- **A text says one tree at most.** -/
theorem Says.unique {text : String} {tree tree' : Tree} (h : Says text tree)
    (h' : Says text tree') : tree = tree' :=
  (Grammar.Element.unique h h' nofun nofun).1

end ParcelLink.Json
