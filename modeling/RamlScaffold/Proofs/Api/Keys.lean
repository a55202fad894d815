import RamlScaffold.Api.Document

/-
  Which keys of a node name resources and verbs.

  A number or a truth value that stands as a key counts as its
  text, but no such text starts with a slash or is a verb.  So
  only keys that are texts name resources and verbs.

  Main declarations:
    * `StartsNumber`, `Yaml.Number.startsNumber_render`
    * `Yaml.Value.childKey?`, `Yaml.Value.verbKey?`
    * `Yaml.Value.KeyCase`, `Yaml.Value.keyCase`
-/

------------------------------------------------------------
-- Texts Of Numbers
------------------------------------------------------------

namespace RamlScaffold

/- Whether a text starts as the texts of numbers do. -/
def StartsNumber (text : String) : Prop :=
  ∃ c rest, text.toList = c :: rest ∧
    (c.isDigit = true ∨ c = '-' ∨ c = '.')

theorem StartsNumber.append
    {front : String}
    (hFront : StartsNumber front)
    (back : String) :
    StartsNumber (front ++ back) := by
  rcases hFront with ⟨c, rest, hText, hStart⟩
  refine ⟨c, rest ++ back.toList, ?_, hStart⟩
  rw [String.toList_append, hText, List.cons_append]

theorem startsNumber_toString (n : Nat) :
    StartsNumber (toString n) := by
  cases hDigits : Nat.toDigits 10 n with
  | nil => exact absurd hDigits Nat.toDigits_ne_nil
  | cons c rest =>
      refine ⟨c, rest, ?_, Or.inl ?_⟩
      · rw [Nat.toString_eq_ofList_toDigits, hDigits,
          String.toList_ofList]
      · apply Nat.isDigit_of_mem_toDigits (b := 10) (n := n)
        · decide
        · decide
        · rw [hDigits]
          exact List.mem_cons_self

/- The first digits of a number start like the number. -/
theorem StartsNumber.take
    {text : String}
    (hText : StartsNumber text)
    {count : Nat}
    (hCount : 0 < count) :
    StartsNumber (String.ofList (text.toList.take count)) := by
  rcases hText with ⟨c, rest, hText, hStart⟩
  cases count with
  | zero => cases hCount
  | succ count =>
      refine ⟨c, rest.take count, ?_, hStart⟩
      rw [String.toList_ofList, hText, List.take_succ_cons]

theorem startsNumber_minus (text : String) :
    StartsNumber ("-" ++ text) :=
  StartsNumber.append ⟨'-', [], rfl, Or.inr (Or.inl rfl)⟩ text

theorem startsNumber_zero (text : String) :
    StartsNumber ("0." ++ text) :=
  StartsNumber.append ⟨'0', ['.'], rfl, Or.inl (by decide)⟩ text

theorem Decimal.startsNumber_render (decimal : Decimal) :
    StartsNumber decimal.render := by
  have hDigits := startsNumber_toString decimal.digits
  unfold render
  cases decimal.negative with
  | true => exact startsNumber_minus _
  | false =>
      simp only [Bool.false_eq_true, if_false,
        String.empty_append]
      split
      · exact startsNumber_zero "0"
      · split
        · exact (hDigits.append _).append _
        · split
          · next hTop =>
              exact ((hDigits.take (by omega)).append _).append _
          · split
            · rw [String.append_assoc]
              exact startsNumber_zero _
            · exact
                (((hDigits.take (by decide)).append _).append
                  _).append _

namespace Yaml

theorem Number.startsNumber_render (number : Number) :
    StartsNumber number.render := by
  cases number with
  | integer value =>
      cases value with
      | ofNat n => exact startsNumber_toString n
      | negSucc n => exact startsNumber_minus _
  | decimal value => exact value.startsNumber_render
  | infinity negative =>
      cases negative with
      | true => exact startsNumber_minus ".inf"
      | false =>
          exact ⟨'.', ['i', 'n', 'f'], rfl, Or.inr (Or.inr rfl)⟩
  | notANumber =>
      exact ⟨'.', ['n', 'a', 'n'], rfl, Or.inr (Or.inr rfl)⟩

end Yaml

end RamlScaffold

------------------------------------------------------------
-- First Characters Of Verbs
------------------------------------------------------------

namespace RamlScaffold

/- The letters that verbs start with. -/
def verbStarts : List Char :=
  ['g', 'p', 'd', 'h', 'o']

/- A text that starts otherwise is no verb. -/
theorem Verb.parse?_of_head
    {name : String}
    {c : Char}
    (hHead : name.toList.head? = some c)
    (hOther : c.toLower ∉ verbStarts) :
    Verb.parse? name = none := by
  have hLower :
      (Text.lowerAscii name).toList.head? = some c.toLower := by
    rw [Text.lowerAscii, String.toList_ofList, List.head?_map,
      hHead, Option.map_some]
  unfold Verb.parse?
  split
  case h_8 => rfl
  all_goals
    next hWord =>
      rw [hWord] at hLower
      apply absurd _ hOther
      rw [← Option.some.inj hLower]
      decide

/- What names a resource is no verb. -/
theorem parse?_of_isResourceKey
    {name : String}
    (hSlash : isResourceKey name = true) :
    Verb.parse? name = none :=
  Verb.parse?_of_head (eq_of_beq hSlash) (by decide)

theorem toLower_of_isDigit
    {c : Char}
    (hDigit : c.isDigit = true) :
    c.toLower = c := by
  have hBounds : '0'.val ≤ c.val ∧ c.val ≤ '9'.val := by
    simpa [Char.isDigit] using hDigit
  unfold Char.toLower
  split
  · next hCapital =>
      have hOrder := UInt32.le_trans hCapital.1 hBounds.2
      exact absurd hOrder (by decide)
  · rfl

namespace StartsNumber

variable {text : String}

/- The text of a number names no resource. -/
theorem isResourceKey_eq_false
    (hText : StartsNumber text) :
    isResourceKey text = false := by
  rcases hText with ⟨c, rest, hText, hStart⟩
  unfold isResourceKey
  rw [hText, List.head?_cons, beq_eq_false_iff_ne, ne_eq,
    Option.some.injEq]
  rintro rfl
  exact absurd hStart (by decide)

/- The text of a number is no verb. -/
theorem parse?_eq_none
    (hText : StartsNumber text) :
    Verb.parse? text = none := by
  rcases hText with ⟨c, rest, hText, hStart⟩
  apply Verb.parse?_of_head (c := c)
  · rw [hText, List.head?_cons]
  rcases hStart with hDigit | rfl | rfl
  · rw [toLower_of_isDigit hDigit]
    intro hMem
    have hLetters :
        verbStarts.all (fun letter => !letter.isDigit) = true :=
      rfl
    have hLetter := List.all_eq_true.mp hLetters c hMem
    rw [hDigit] at hLetter
    cases hLetter
  · decide
  · decide

end StartsNumber

end RamlScaffold

------------------------------------------------------------
-- What A Key Names
------------------------------------------------------------

namespace RamlScaffold.Yaml.Value

/- The address of a nested resource, if a key is one. -/
def childKey? : Value → Option String
  | .text name => if isResourceKey name then some name else none
  | _ => none

/- The verb of a method, if a key is one. -/
def verbKey? : Value → Option Verb
  | .text name => Verb.parse? name
  | _ => none

/- All that a key can be to those who take it for a text. -/
inductive KeyCase (key : Value) : Prop where
  | child
      (name : String)
      (hChild : key.childKey? = some name)
      (hVerb : key.verbKey? = none)
      (hText : key.keyText? = some name)
      (hSlash : isResourceKey name = true)
  | verb
      (name : String)
      (verb : Verb)
      (hChild : key.childKey? = none)
      (hVerb : key.verbKey? = some verb)
      (hText : key.keyText? = some name)
      (hSlash : isResourceKey name = false)
      (hParse : Verb.parse? name = some verb)
  | other
      (hChild : key.childKey? = none)
      (hVerb : key.verbKey? = none)
      (hOther :
        ∀ name, key.keyText? = some name →
          isResourceKey name = false ∧
            Verb.parse? name = none)

theorem keyCase (key : Value) : key.KeyCase := by
  cases key with
  | text name =>
      by_cases hSlash : isResourceKey name = true
      · exact
          .child name (if_pos hSlash)
            (parse?_of_isResourceKey hSlash) rfl hSlash
      · have hChild : childKey? (.text name) = none :=
          if_neg hSlash
        rw [Bool.not_eq_true] at hSlash
        cases hParse : Verb.parse? name with
        | none =>
            refine .other hChild hParse ?_
            intro other hText
            rw [← Option.some.inj hText]
            exact ⟨hSlash, hParse⟩
        | some verb =>
            exact .verb name verb hChild hParse rfl hSlash hParse
  | number value =>
      refine .other rfl rfl ?_
      intro name hText
      rw [← Option.some.inj hText]
      exact
        ⟨value.startsNumber_render.isResourceKey_eq_false,
          value.startsNumber_render.parse?_eq_none⟩
  | bool value =>
      refine .other rfl rfl ?_
      intro name hText
      rw [← Option.some.inj hText]
      cases value <;> decide
  | null => exact .other rfl rfl nofun
  | sequence items => exact .other rfl rfl nofun
  | mapping entries => exact .other rfl rfl nofun
  | tagged tag value => exact .other rfl rfl nofun

end RamlScaffold.Yaml.Value
