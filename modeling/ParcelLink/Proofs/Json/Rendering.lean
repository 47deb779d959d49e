import ParcelLink.Proofs.Json.Unambiguous
import ParcelLink.Proofs.Text.Surrogates

/-!
# The text of a value says the value

What the link writes of a value is a text by the grammar, in front of anything that may stand behind
a value: without blanks, with the digits of a number alone, and with each character of a string
either as it is or escaped (`Json.value_chars`). So the text says the tree of the value
(`Json.says_render`) and nothing else, and since a value can be told from its tree
(`Json.tree_inj`), it can be told from its text (`Json.render_inj`). No control stands in a text
(`Json.visible_render`).
-/

namespace ParcelLink.Json

open Grammar

/-! ### Values by their parts -/

/-- What holds of a value when it holds of its parts holds of all values. -/
theorem of_parts {P : Json → Prop} (null : P .null) (bool : ∀ b, P (.bool b))
    (number : ∀ n, P (.number n)) (string : ∀ s, P (.string s))
    (list : ∀ items, (∀ item ∈ items, P item) → P (.list items))
    (object : ∀ fields, (∀ field ∈ fields, P field.2) → P (.object fields)) (value : Json) :
    P value := by
  cases value with
  | null => exact null
  | bool b => exact bool b
  | number n => exact number n
  | string s => exact string s
  | list items =>
    exact list items fun item hitem ↦ of_parts null bool number string list object item
  | object fields =>
    exact object fields fun field hfield ↦
      of_parts null bool number string list object field.2
termination_by value
decreasing_by
  · have := List.sizeOf_lt_of_mem hitem
    simp only [Json.list.sizeOf_spec]
    omega
  · have := List.sizeOf_lt_of_mem hfield
    obtain ⟨name, v⟩ := field
    simp only [Json.object.sizeOf_spec, Prod.mk.sizeOf_spec] at this ⊢
    omega

theorem treesOfItems_eq (items : List Json) : treesOfItems items = items.map tree := by
  induction items with
  | nil => rfl
  | cons item rest ih => rw [treesOfItems, ih, List.map_cons]

theorem treesOfFields_eq (fields : List (String × Json)) :
    treesOfFields fields = fields.map fun field ↦ (field.1, field.2.tree) := by
  induction fields with
  | nil => rfl
  | cons field rest ih =>
    obtain ⟨name, value⟩ := field
    rw [treesOfFields, ih, List.map_cons]

/-! ### Numbers -/

theorem digits_toDigits (n : Nat) : Digits (Nat.toDigits 10 n) :=
  ⟨Nat.toDigits_ne_nil, fun _ ↦ Nat.isDigit_of_mem_toDigits (by decide) (by decide)⟩

/-- Only zero is written with a leading zero. -/
theorem head?_toDigits {n : Nat} (h : n ≠ 0) : (Nat.toDigits 10 n).head? ≠ some '0' := by
  induction n using Nat.strongRecOn with
  | ind n ih =>
    rw [Nat.toDigits_eq_if (by decide)]
    split
    · next hlt =>
      rw [List.head?_cons, Ne, Option.some.injEq, Nat.digitChar_eq_zero]
      exact h
    · next hge =>
      have hfirst := ih (n / 10) (by omega) (by omega)
      obtain ⟨d, digits, hdigits⟩ := (digits_toDigits (n / 10)).exists_cons
      rw [hdigits.1] at hfirst ⊢
      exact hfirst

theorem whole_toDigits (n : Nat) (rest : List Char) : Whole n (Nat.toDigits 10 n ++ rest) rest := by
  by_cases hzero : n = 0
  · subst hzero
    exact .zero
  · have hwhole := @Whole.digits _ rest (digits_toDigits n) (head?_toDigits hzero)
    rwa [numberOf, Nat.ofDigitChars_ten_toDigits] at hwhole

theorem number_toDigits (n : Nat) (rest : List Char) :
    Number n (Nat.toDigits 10 n ++ rest) rest := by
  have hsigned : (([] : List Char), (1 : ℤ)) ∈ numberSigns := by decide
  have hnumber := Number.mk hsigned (whole_toDigits n rest) .none .none
  simpa using hnumber

/-! ### Strings -/

theorem hexUnit?_control : ∀ n < 0x20,
    hexUnit? '0' '0' (hexDigit (n / 16)) (hexDigit n) = some (UInt16.ofNat n)
      ∧ Utf16.isLow (UInt16.ofNat n) = false := by
  decide

/-- A character is read as it is escaped. -/
theorem character_escape (c : Char) (rest : List Char) : Character c (escape c ++ rest) rest := by
  unfold escape
  split_ifs with hquote hbackslash hb ht hn hf hr hcontrol
  · exact .letter (by rw [hquote]; decide)
  · exact .letter (by rw [hbackslash]; decide)
  · exact .letter (by rw [hb]; decide)
  · exact .letter (by rw [ht]; decide)
  · exact .letter (by rw [hn]; decide)
  · exact .letter (by rw [hf]; decide)
  · exact .letter (by rw [hr]; decide)
  · obtain ⟨hspelled, hlow⟩ := hexUnit?_control c.toNat hcontrol
    obtain ⟨hhigh, hsingle⟩ := Utf16.single_ofNat (c := c) (by omega)
    have hunit := @Character.unit _ _ _ _ _ rest hspelled hhigh hlow
    rwa [hsingle] at hunit
  · exact .plain (by omega) hquote hbackslash

theorem quoted_stringChars (s : String) (rest : List Char) :
    Quoted s (stringChars s ++ rest) rest := by
  have hcharacters : ∀ cs : List Char,
      Characters cs (cs.flatMap escape ++ '"' :: rest) rest := by
    intro cs
    induction cs with
    | nil => exact .done
    | cons c cs ih =>
      rw [List.flatMap_cons, List.append_assoc]
      exact .more (character_escape c _) ih
  have hquoted := Quoted.mk (hcharacters s.toList)
  rw [String.ofList_toList] at hquoted
  rw [stringChars, List.cons_append, List.append_assoc]
  exact hquoted

/-! ### Values -/

/-- A value may stand without blanks. -/
theorem Grammar.Value.element {tree : Tree} {text rest : List Char} (h : Value tree text rest) :
    Element tree text rest :=
  @Element.mk tree [] text [] rest nofun h nofun

theorem stops_cons {c : Char} (hc : c ∈ stoppers) (text : List Char) : Stops (c :: text) := by
  intro c' hc'
  exact Option.some.inj hc' ▸ hc

/-- The items of a list, each of which is written as its tree says. -/
theorem items_chars {items : List Json} (hne : items ≠ []) {rest : List Char}
    (hitems : ∀ item ∈ items, ∀ {rest : List Char}, Stops rest →
      Value item.tree (item.chars ++ rest) rest) :
    Items (items.map tree) (charsOfItems items ++ ']' :: rest) (']' :: rest) := by
  induction items with
  | nil => exact absurd rfl hne
  | cons item items ih =>
    cases items with
    | nil => exact .last (hitems item List.mem_cons_self (stops_cons (by decide) rest)).element
    | cons next items =>
      rw [charsOfItems, List.append_assoc]
      exact .more (hitems item List.mem_cons_self (stops_cons (by decide) _)).element
        (ih (List.cons_ne_nil _ _) fun other hother ↦ hitems other (List.mem_cons_of_mem _ hother))

/-- A name and a value that is written as its tree says. -/
theorem field_chars (name : String) {tree : Tree} {text rest : List Char}
    (hvalue : Value tree text rest) : Field (name, tree) (stringChars name ++ ':' :: text) rest :=
  @Grammar.Field.mk name tree [] _ [] text rest nofun (quoted_stringChars name _) nofun
    hvalue.element

/-- The fields of an object, each of whose values is written as its tree says. -/
theorem fields_chars {fields : List (String × Json)} (hne : fields ≠ []) {rest : List Char}
    (hfields : ∀ field ∈ fields, ∀ {rest : List Char}, Stops rest →
      Value field.2.tree (field.2.chars ++ rest) rest) :
    Fields (fields.map fun field ↦ (field.1, field.2.tree))
      (charsOfFields fields ++ '\x7d' :: rest) ('\x7d' :: rest) := by
  induction fields with
  | nil => exact absurd rfl hne
  | cons field fields ih =>
    cases fields with
    | nil =>
      rw [charsOfFields, List.append_assoc]
      exact .last (field_chars field.1
        (hfields field List.mem_cons_self (stops_cons (by decide) rest)))
    | cons next fields =>
      rw [charsOfFields, List.append_assoc, List.cons_append, List.append_assoc]
      exact .more (field_chars field.1
        (hfields field List.mem_cons_self (stops_cons (by decide) _)))
        (ih (List.cons_ne_nil _ _) fun other hother ↦
          hfields other (List.mem_cons_of_mem _ hother))

/-- **What is written of a value says its tree**, in front of anything that may stand behind it. -/
theorem value_chars (value : Json) {rest : List Char} (hr : Stops rest) :
    Value value.tree (value.chars ++ rest) rest := by
  induction value using of_parts generalizing rest with
  | null => exact .null
  | bool b => cases b <;> constructor
  | number n => exact .number (number_toDigits n rest)
  | string s => exact .string (quoted_stringChars s rest)
  | list items ih =>
    rw [tree, chars, treesOfItems_eq, List.cons_append, List.append_assoc]
    cases items with
    | nil => exact .noItems nofun
    | cons item items => exact .list (items_chars (List.cons_ne_nil _ _) ih)
  | object fields ih =>
    rw [tree, chars, treesOfFields_eq, List.cons_append, List.append_assoc]
    cases fields with
    | nil => exact .noFields nofun
    | cons field fields => exact .object (fields_chars (List.cons_ne_nil _ _) ih)

/-- **The text of a value says its tree.** -/
theorem says_render (value : Json) : Says value.render value.tree := by
  have hvalue : Value value.tree (value.chars ++ []) [] := value_chars value nofun
  rw [List.append_nil, ← toList_render] at hvalue
  exact hvalue.element

/-! ### Values can be told from their texts -/

/-- Lists with the same images are the same where the images tell the members of one of them. -/
theorem eq_of_map_eq {α β : Type} {f : α → β} {as bs : List α}
    (hf : ∀ a ∈ as, ∀ b, f a = f b → a = b) (h : as.map f = bs.map f) : as = bs := by
  induction as generalizing bs with
  | nil => exact (List.map_eq_nil_iff.mp h.symm).symm
  | cons a as ih =>
    obtain ⟨b, bs', rfl, hab, hrest⟩ := List.map_eq_cons_iff.mp h.symm
    rw [hf a List.mem_cons_self b hab.symm,
      ih (fun a' ha' ↦ hf a' (List.mem_cons_of_mem _ ha')) hrest.symm]

/-- **A value can be told from its tree.** -/
theorem tree_inj {value other : Json} (h : value.tree = other.tree) : value = other := by
  induction value using of_parts generalizing other with
  | null => cases other <;> first | rfl | cases h
  | bool b =>
    cases other with
    | bool b' => cases h; rfl
    | _ => cases h
  | number n =>
    cases other with
    | number m =>
      rw [tree, tree, Tree.number.injEq, Rat.natCast_inj] at h
      rw [h]
    | _ => cases h
  | string s =>
    cases other with
    | string s' => cases h; rfl
    | _ => cases h
  | list items ih =>
    cases other with
    | list items' =>
      rw [tree, tree, treesOfItems_eq, treesOfItems_eq, Tree.list.injEq] at h
      rw [eq_of_map_eq (fun item hitem other ↦ ih item hitem) h]
    | _ => cases h
  | object fields ih =>
    cases other with
    | object fields' =>
      rw [tree, tree, treesOfFields_eq, treesOfFields_eq, Tree.object.injEq] at h
      have hfields := eq_of_map_eq (fun field hfield other hother ↦ by
        rw [Prod.mk.injEq] at hother
        exact Prod.ext hother.1 (ih field hfield hother.2)) h
      rw [hfields]
    | _ => cases h

/-- **A text that is written of a value says its tree and no other.** -/
theorem says_render_iff (value : Json) (tree : Tree) :
    Says value.render tree ↔ tree = value.tree :=
  ⟨fun h ↦ h.unique (says_render value), fun h ↦ h ▸ says_render value⟩

/-- **A value can be told from its text.** -/
theorem render_inj {value other : Json} (h : value.render = other.render) : value = other :=
  tree_inj ((says_render_iff other value.tree).mp (h ▸ says_render value))

/-! ### Texts without controls -/

/-- Whether no control stands in a text. -/
def Visible (text : List Char) : Prop := ∀ c ∈ text, 0x20 ≤ c.toNat

theorem visible_append {text rest : List Char} :
    Visible (text ++ rest) ↔ Visible text ∧ Visible rest := List.forall_mem_append

theorem visible_cons {c : Char} {text : List Char} :
    Visible (c :: text) ↔ 0x20 ≤ c.toNat ∧ Visible text := List.forall_mem_cons

instance (text : List Char) : Decidable (Visible text) := List.decidableBAll _ _

theorem visible_digits {text : List Char} (h : Digits text) : Visible text := by
  intro c hc
  have hdigit := h.2 c hc
  simp only [Char.isDigit, Bool.and_eq_true, decide_eq_true_eq] at hdigit
  exact le_trans (by decide) (UInt32.le_iff_toNat_le.mp hdigit.1)

theorem visible_hexDigit (n : Nat) : 0x20 ≤ (hexDigit n).toNat := by
  have hall : ∀ k < 16, 0x20 ≤ (Nat.digitChar k).toNat := by decide
  exact hall _ (Nat.mod_lt _ (by decide))

theorem visible_escape (c : Char) : Visible (escape c) := by
  unfold escape
  split_ifs with _ _ _ _ _ _ _ hcontrol
  iterate 7 decide
  · have hhead : Visible ['\\', 'u', '0', '0'] := by decide
    exact visible_append.mpr ⟨hhead, by
      simp [Visible, visible_hexDigit]⟩
  · simpa [Visible] using hcontrol

theorem visible_stringChars (s : String) : Visible (stringChars s) := by
  have hquote : 0x20 ≤ '"'.toNat := by decide
  have hcharacters : Visible (s.toList.flatMap escape) := by
    intro c hc
    obtain ⟨c', -, hmem⟩ := List.mem_flatMap.mp hc
    exact visible_escape c' c hmem
  exact visible_cons.mpr ⟨hquote, visible_append.mpr ⟨hcharacters, by decide⟩⟩

theorem visible_charsOfItems {items : List Json} (hitems : ∀ item ∈ items, Visible item.chars) :
    Visible (charsOfItems items) := by
  induction items with
  | nil => exact nofun
  | cons item items ih =>
    have hitem := hitems item List.mem_cons_self
    cases items with
    | nil => exact hitem
    | cons next items =>
      have hothers := ih fun other hother ↦ hitems other (List.mem_cons_of_mem _ hother)
      rw [charsOfItems, visible_append, visible_cons]
      exact ⟨hitem, by decide, hothers⟩

theorem visible_charsOfFields {fields : List (String × Json)}
    (hfields : ∀ field ∈ fields, Visible field.2.chars) : Visible (charsOfFields fields) := by
  induction fields with
  | nil => exact nofun
  | cons field fields ih =>
    have hfield := hfields field List.mem_cons_self
    cases fields with
    | nil =>
      rw [charsOfFields, visible_append, visible_cons]
      exact ⟨visible_stringChars _, by decide, hfield⟩
    | cons next fields =>
      have hothers := ih fun other hother ↦ hfields other (List.mem_cons_of_mem _ hother)
      rw [charsOfFields, visible_append, visible_cons, visible_append, visible_cons]
      exact ⟨visible_stringChars _, by decide, hfield, by decide, hothers⟩

theorem visible_chars (value : Json) : Visible value.chars := by
  induction value using of_parts with
  | null => rw [chars]; decide
  | bool b => cases b <;> · rw [chars]; decide
  | number n => exact visible_digits (digits_toDigits n)
  | string s => exact visible_stringChars s
  | list items ih =>
    rw [chars, visible_cons, visible_append]
    exact ⟨by decide, visible_charsOfItems ih, by decide⟩
  | object fields ih =>
    rw [chars, visible_cons, visible_append]
    exact ⟨by decide, visible_charsOfFields ih, by decide⟩

/-- **No control stands in the text of a value.** -/
theorem visible_render (value : Json) : Visible value.render.toList := by
  rw [toList_render]
  exact visible_chars value

end ParcelLink.Json
