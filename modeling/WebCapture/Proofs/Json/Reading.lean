import WebCapture.Json.Decoder
import WebCapture.Proofs.Json.Skipping

set_option autoImplicit false

/-! # Values are taken off a text

A decoder `Tells` what a text says if it takes the text off the front of anything and gives what
the text says, or fails if the text says nothing. Which fault it fails with is not told: the
statements are about `Except.toOption`, so they hold whatever is told about a place.

What a list says follows from what its items say (`tells_list`). A member of an object `Does`
something to a draft of the record that is being read; what the object says is what its members do
to the draft, one after the other (`tells_record`). Members that are no fields do nothing,
whatever their values, by `Proofs/Json/Skipping`.

For a new kind of message it is enough to say what each of its members does; the order of the
members, blanks and escapes are dealt with here once.
-/

namespace WebCapture.Json

open Source (skipBlanks)

/-- The decoder takes the text off the front of anything, whatever blanks stand before it; it gives
the value that the text has, or fails if it has none. -/
def Tells {α : Type} (decoder : Decoder α) (text : List Char) (x? : Option α) : Prop :=
  ∀ (front : List Char) (rest : Source), IsBlank front →
    (decoder (front.map some ++ (text.map some ++ rest))).toOption = x?.map (·, rest)

theorem eq_ok_of_toOption {ε α : Type} {result : Except ε α} {x : α}
    (h : result.toOption = some x) : result = .ok x := by
  cases result with
  | error _ => cases h
  | ok y =>
      obtain rfl : y = x := Option.some.inj h
      rfl

theorem toOption_map {ε α β : Type} (f : α → β) (result : Except ε α) :
    (result.map f).toOption = result.toOption.map f := by
  cases result <;> rfl

theorem toOption_bind {ε α β : Type} (result : Except ε α) (f : α → Except ε β) :
    (result.bind f).toOption = result.toOption.bind fun x => (f x).toOption := by
  cases result <;> rfl

section

variable {α : Type} {decoder : Decoder α} {text : List Char}

/-- What has a value is read as that value. -/
theorem Tells.eq_ok {x : α} (h : Tells decoder text (some x)) {front : List Char}
    (blank : IsBlank front) (rest : Source) :
    decoder (front.map some ++ (text.map some ++ rest)) = .ok (x, rest) :=
  eq_ok_of_toOption (h front rest blank)

/-- A text is decoded if nothing but blanks follows. -/
theorem decode_of_tells {x? : Option α} (h : Tells decoder text x?) {front : List Char}
    (blank : IsBlank front) (rest : Source) :
    (decode decoder (front.map some ++ (text.map some ++ rest))).toOption
      = if skipBlanks rest = [] then x? else none := by
  have steps : ∀ source, (decode decoder source).toOption = (decoder source).toOption.bind
      fun found => if skipBlanks found.2 = [] then some found.1 else none := by
    intro source
    rw [decode]
    cases decoder source with
    | error halt => rfl
    | ok found =>
        by_cases finished : skipBlanks found.2 = []
        · simp [Except.toOption, finished]
        · simp [Except.toOption, finished]
  rw [steps, h front rest blank]
  cases x? with
  | none => rw [ite_self]; rfl
  | some x => rw [Option.map_some, Option.bind_some]

/-- A text that goes no further is decoded as what it says. -/
theorem decode_encode {x? : Option α} (h : Tells decoder text x?) :
    (decode decoder (Source.ofBytes (Text.Utf8.encode text))).toOption = x? := by
  have told := decode_of_tells h isBlank_nil []
  rwa [List.map_nil, List.nil_append, List.append_nil, ← Text.Utf8.units_encode] at told

/-- Blanks before a value are skipped. -/
theorem value_behind {front : List Char} (blank : IsBlank front) {u : Option Char}
    (visible : Source.isBlank u = false) (read : Decoder α) (rest : Source) :
    value read (front.map some ++ u :: rest) = read (u :: rest) := by
  rw [value, skipBlanks_to blank visible]

end

/-! ## Strings and literals -/

/-- A string is read as what it spells. -/
theorem tells_string {text : List Char} {s : String} (h : IsString text s) :
    Tells string text (some s) := by
  obtain ⟨inner, spells, rfl⟩ := h
  intro front rest blank
  have shape : (quoted inner).map some ++ rest
      = some '"' :: (inner.map some ++ some '"' :: rest) := by simp [quoted]
  rw [shape, string, value_behind blank rfl]
  simp only [readString_spells spells]
  rfl

theorem tells_boolean (b : Bool) : Tells boolean (booleanText b) (some b) := by
  intro front rest blank
  cases b with
  | true =>
      have shape : (booleanText true).map some ++ rest
          = some 't' :: some 'r' :: some 'u' :: some 'e' :: rest := rfl
      rw [shape, boolean, value_behind blank rfl]
      rfl
  | false =>
      have shape : (booleanText false).map some ++ rest
          = some 'f' :: some 'a' :: some 'l' :: some 's' :: some 'e' :: rest := rfl
      rw [shape, boolean, value_behind blank rfl]
      rfl

/-- A value that goes by a name is read from the name. -/
theorem tells_variant {α : Type} {known : List (String × α)} {text : List Char} {name : String}
    {x : α} (spelled : IsString text name) (h : lookUp known name = .ok x) :
    Tells (variant known) text (some x) := by
  obtain ⟨inner, spells, rfl⟩ := spelled
  intro front rest blank
  have shape : (quoted inner).map some ++ rest
      = some '"' :: (inner.map some ++ some '"' :: rest) := by simp [quoted]
  rw [shape, variant, value_behind blank rfl]
  simp only [readString_spells spells, h]
  rfl

section

variable {α : Type} {decoder : Decoder α}

/-- The null is read as nothing. -/
theorem tells_null : Tells (nullable decoder) ['n', 'u', 'l', 'l'] (some none) := by
  intro front rest blank
  have shape : (['n', 'u', 'l', 'l'].map some ++ rest : Source)
      = some 'n' :: some 'u' :: some 'l' :: some 'l' :: rest := rfl
  rw [shape, nullable, skipBlanks_to blank rfl]
  rfl

theorem nullable_behind {front : List Char} (blank : IsBlank front) {c : Char}
    (visible : Source.isBlank (some c) = false) (other : c ≠ 'n') (rest : Source) :
    nullable decoder (front.map some ++ some c :: rest)
      = (decoder (some c :: rest)).map fun found => (some found.1, found.2) := by
  rw [nullable, skipBlanks_to blank visible]
  split
  · rename_i null
    cases null
    exact absurd rfl other
  · cases decoder (some c :: rest) <;> rfl

/-- What starts with another letter than the null is read as a value. -/
theorem tells_nullable {c : Char} {more : List Char} {x? : Option α}
    (visible : Source.isBlank (some c) = false) (other : c ≠ 'n')
    (h : Tells decoder (c :: more) x?) : Tells (nullable decoder) (c :: more) (x?.map some) := by
  intro front rest blank
  have told : (decoder (some c :: (more.map some ++ rest))).toOption = x?.map (·, rest) :=
    h [] rest isBlank_nil
  rw [List.map_cons, List.cons_append, nullable_behind blank visible other, toOption_map, told,
    Option.map_map, Option.map_map]
  rfl

end

/-! ## Lists

The elements are read one after the other (`elements_behind`), and a list says something if each
of its items does.
-/

section

variable {α : Type} {decoder : Decoder α}

/-- Behind an opening bracket or a comma there is an element. -/
theorem nextElement_first {front text : List Char} (blank : IsBlank front) (h : Starts text)
    (rest : Source) :
    nextElement true (front.map some ++ (text.map some ++ rest))
      = .ok (true, text.map some ++ rest) := by
  unfold nextElement
  rw [h.skipBlanks blank]
  obtain ⟨c, tail, rfl, -, noList, -⟩ := h
  simp [noList]

theorem nextElement_comma {back front text : List Char} (blank' : IsBlank back)
    (blank : IsBlank front) (h : Starts text) (rest : Source) :
    nextElement false (back.map some ++ some ',' :: (front.map some ++ (text.map some ++ rest)))
      = .ok (true, text.map some ++ rest) := by
  have stop := h.skipBlanks blank rest
  obtain ⟨c, tail, rfl, -, noList, -⟩ := h
  rw [List.map_cons, List.cons_append] at stop ⊢
  unfold nextElement
  rw [skipBlanks_to blank' rfl]
  simp [stop, noList]

theorem nextElement_end {back : List Char} (blank : IsBlank back) (first : Bool) (rest : Source) :
    nextElement first (back.map some ++ some ']' :: rest) = .ok (false, some ']' :: rest) := by
  unfold nextElement
  rw [skipBlanks_to blank rfl]
  rfl

/-- The item is padded, and the decoder reads its value. -/
structure Item.Holds (decoder : Decoder α) (item : Item) (x : α) : Prop where
  padded : item.IsPadded
  starts : Starts item.value
  told : Tells decoder item.value (some x)

/-- An element is read where one comes next. -/
theorem elements_next {item : Item} {x : α} (h : item.Holds decoder x) {first : Bool}
    {source rest : Source}
    (next : nextElement first source = .ok (true, item.value.map some ++ rest))
    (fuel : Nat) :
    elements decoder (fuel + 1) first source
      = (elements decoder fuel false rest).map fun found => (x :: found.1, found.2) := by
  have read : decoder (item.value.map some ++ rest) = .ok (x, rest) :=
    h.told.eq_ok isBlank_nil rest
  simp only [elements, next, read]
  cases elements decoder fuel false rest <;> rfl

/-- The elements behind others are read up to the end of the list. -/
theorem elements_behind {items : List Item} {xs : List α}
    (h : List.Forall₂ (Item.Holds decoder) items xs) {fuel : Nat} (enough : items.length < fuel)
    {back : List Char} (blank : IsBlank back) (rest : Source) :
    elements decoder fuel false
        (back.map some ++ ((behind (items.map Item.text)).map some ++ some ']' :: rest))
      = .ok (xs, some ']' :: rest) := by
  induction h generalizing fuel back with
  | nil =>
      obtain ⟨fuel, rfl⟩ := Nat.exists_eq_add_one_of_ne_zero (Nat.ne_of_gt enough)
      have ending : nextElement false (back.map some ++ some ']' :: rest)
          = .ok (false, some ']' :: rest) := nextElement_end blank false rest
      simp only [List.map_nil, behind, List.flatMap_nil, List.nil_append, elements, ending]
  | @cons item x items xs holds more ih =>
      have positive : fuel ≠ 0 := Nat.ne_of_gt (Nat.zero_lt_of_lt enough)
      obtain ⟨fuel, rfl⟩ := Nat.exists_eq_add_one_of_ne_zero positive
      have shape : (behind ((item :: items).map Item.text)).map some ++ some ']' :: rest
          = some ',' :: (item.front.map some ++ (item.value.map some ++ (item.back.map some ++
            ((behind (items.map Item.text)).map some ++ some ']' :: rest)))) := by
        simp [behind_cons, Item.text]
      have next := nextElement_comma blank holds.padded.front holds.starts
        (item.back.map some ++ ((behind (items.map Item.text)).map some ++ some ']' :: rest))
      rw [shape, elements_next holds next, ih (by simpa using enough) holds.padded.back]
      rfl

/-- The elements are read between the brackets. -/
theorem elements_enclosed {items : List Item} {xs : List α} {text : List Char}
    (enclosed : IsEnclosed '[' ']' (items.map Item.text) text)
    (h : List.Forall₂ (Item.Holds decoder) items xs) :
    ∃ inner, text = '[' :: inner ∧ ∀ rest : Source,
      elements decoder ((inner.map some ++ rest).length + 1) true (inner.map some ++ rest)
        = .ok (xs, some ']' :: rest) := by
  rcases enclosed.cases with ⟨empty, blanks, blank, rfl⟩ | ⟨piece, more, nonempty, rfl⟩
  · refine ⟨_, rfl, fun rest => ?_⟩
    cases h with
    | nil =>
        have shape : (blanks ++ [']']).map some ++ rest = blanks.map some ++ some ']' :: rest := by
          simp
        rw [shape, elements, nextElement_end blank true rest]
    | cons _ _ => cases empty
  · refine ⟨_, rfl, fun rest => ?_⟩
    cases h with
    | nil => cases nonempty
    | @cons item x items xs holds more =>
        obtain ⟨rfl, rfl⟩ := List.cons.inj nonempty
        have shape : (item.text ++ (behind (items.map Item.text) ++ [']'])).map some ++ rest
            = item.front.map some ++ (item.value.map some ++ (item.back.map some ++
                ((behind (items.map Item.text)).map some ++ some ']' :: rest))) := by
          simp [Item.text]
        have next := nextElement_first holds.padded.front holds.starts
          (item.back.map some ++ ((behind (items.map Item.text)).map some ++ some ']' :: rest))
        rw [shape, elements_next holds next, elements_behind more ?_ holds.padded.back]
        · rfl
        · -- Every item takes at least one character.
          have long := length_le_behind (items.map Item.text)
          simp only [List.length_append, List.length_map, List.length_cons] at long ⊢
          omega

/-- **A list is read as what its items hold.** -/
theorem tells_list {items : List Item} {xs : List α} {text : List Char}
    (enclosed : IsEnclosed '[' ']' (items.map Item.text) text)
    (h : List.Forall₂ (Item.Holds decoder) items xs) : Tells (list decoder) text (some xs) := by
  intro front rest blank
  obtain ⟨inner, rfl, read⟩ := elements_enclosed enclosed h
  rw [List.map_cons, List.cons_append, list, value_behind blank rfl]
  simp only [read rest]
  rfl

theorem tells_isList {holds : List Char → α → Prop} {xs : List α} {text : List Char}
    (h : IsList holds xs text)
    (told : ∀ cs x, holds cs x → Starts cs ∧ Tells decoder cs (some x)) :
    Tells (list decoder) text (some xs) := by
  obtain ⟨items, parts, held⟩ := h
  refine tells_list parts.enclosed ?_
  have both := (List.forall₂_and_left _ _).2 ⟨parts.padded, held⟩
  exact both.imp fun item x h => ⟨h.1, (told _ x h.2).1, (told _ x h.2).2⟩

end

/-! ## Records

The draft is changed by one member after the other. A member that fails makes the whole record
fail, and so does a draft that cannot be finished.
-/

section

variable {σ α : Type} {record : Record σ α}

/-- What a member does to a draft of the record that is being read: it changes the draft, or is
refused. -/
structure Member.Does (record : Record σ α) (member : Member) (effect : σ → Option σ) : Prop where
  padded : member.IsPadded
  does : ∃ key : String, Spells member.key key.toList ∧
    ∀ (draft : σ) (rest : Source), Ends rest →
      (readMember record draft key (member.back.map some ++ some ':' ::
        (member.item.front.map some ++ (member.item.value.map some ++ rest)))).toOption
        = (effect draft).map (·, rest)

/-- The colon is taken off behind a key. -/
theorem readColon_behind {back : List Char} (blank : IsBlank back) (rest : Source) :
    readColon (back.map some ++ some ':' :: rest) = .ok rest := by
  rw [readColon, skipBlanks_to blank rfl]
  rfl

/-- A field that is not set yet is set to the value that its decoder reads. -/
theorem readMember_field {β : Type} {key name : String} {decoder : Decoder β}
    {get : σ → Option β} {set : σ → β → σ} {optional : Bool}
    (known : record.fields.find? (·.name == key) = some (field name decoder get set optional))
    {draft : σ} (free : (get draft).isSome = false) {back : List Char} (blank : IsBlank back)
    (rest : Source) :
    readMember record draft key (back.map some ++ some ':' :: rest)
      = (decoder rest).map fun found => (set draft found.1, found.2) := by
  have isSet : (field name decoder get set optional).isSet draft = false := free
  simp only [readMember, known, isSet, readColon_behind blank]
  dsimp only [field]
  cases decoder rest <;> rfl

/-- A field is set once, to what the value of its member says. -/
theorem does_field {β : Type} {member : Member} {key name : String} {decoder : Decoder β}
    {get : σ → Option β} {set : σ → β → σ} {optional : Bool} {x? : Option β}
    (padded : member.IsPadded) (spells : Spells member.key key.toList)
    (known : record.fields.find? (·.name == key) = some (field name decoder get set optional))
    (told : Tells decoder member.item.value x?) :
    member.Does record fun draft =>
      if (get draft).isSome then none else x?.map (set draft) := by
  refine ⟨padded, key, spells, fun draft rest _ => ?_⟩
  have value := told member.item.front rest padded.item.front
  cases taken : (get draft).isSome with
  | true =>
      have isSet : (field name decoder get set optional).isSet draft = true := taken
      simp only [readMember, known, isSet]
      rfl
  | false =>
      rw [readMember_field known taken padded.back, toOption_map, value, Option.map_map]
      simp only [Bool.false_eq_true, if_false, Option.map_map]
      rfl

/-- A field is set to what is written for it. -/
theorem does_written {β : Type} {name : String} {text : List Char} {decoder : Decoder β}
    {get : σ → Option β} {set : σ → β → σ} {optional : Bool} {x? : Option β}
    (known : record.fields.find? (·.name == name) = some (field name decoder get set optional))
    (told : Tells decoder text x?) :
    (writtenMember (name, text)).Does record fun draft =>
      if (get draft).isSome then none else x?.map (set draft) :=
  does_field (writtenMember_isPadded (name, text)) (spells_escaped name.toList) known told

/-- A member that is no field leaves the draft as it is, whatever its value. -/
theorem does_nothing {member : Member} {key : String} (padded : member.IsPadded)
    (spells : Spells member.key key.toList)
    (unknown : record.fields.find? (·.name == key) = none) (open_ : record.closed = false)
    (value : IsValue member.item.value) : member.Does record some := by
  refine ⟨padded, key, spells, fun draft rest ends => ?_⟩
  have skipped := skipValue_isValue padded.item.front value ends
  simp only [readMember, unknown, open_, readColon_behind padded.back, skipped]
  rfl

/-- What members do to a draft, one after the other. -/
def apply (effects : List (σ → Option σ)) (draft : σ) : Option σ :=
  effects.foldlM (fun draft effect => effect draft) draft

theorem apply_cons (effect : σ → Option σ) (effects : List (σ → Option σ)) (draft : σ) :
    apply (effect :: effects) draft = (effect draft).bind (apply effects) := by
  rw [apply, List.foldlM_cons]
  rfl

theorem nextMember_first {front : List Char} (blank : IsBlank front) (rest : Source) :
    nextMember true (front.map some ++ some '"' :: rest) = .ok (true, rest) := by
  rw [nextMember, skipBlanks_to blank rfl]
  rfl

theorem nextMember_comma {back front : List Char} (blank' : IsBlank back) (blank : IsBlank front)
    (rest : Source) :
    nextMember false (back.map some ++ some ',' :: (front.map some ++ some '"' :: rest))
      = .ok (true, rest) := by
  have quote : Source.isBlank (some '"') = false := rfl
  unfold nextMember
  rw [skipBlanks_to blank' rfl]
  simp [skipBlanks_to blank quote]

theorem nextMember_end {back : List Char} (blank : IsBlank back) (first : Bool) (rest : Source) :
    nextMember first (back.map some ++ some '\x7d' :: rest) = .ok (false, rest) := by
  rw [nextMember, skipBlanks_to blank rfl]
  rfl

/-- A member behind the quote that opens its key, and what follows it. -/
def Member.source (member : Member) (rest : Source) : Source :=
  member.key.map some ++ some '"' :: (member.back.map some ++ some ':' ::
    (member.item.front.map some ++ (member.item.value.map some ++
      (member.item.back.map some ++ rest))))

theorem Member.text_append (member : Member) (rest : Source) :
    member.text.map some ++ rest = member.front.map some ++ some '"' :: member.source rest := by
  simp [Member.text, Item.text, quoted, Member.source]

/-- A member is read where one comes next: it does to the draft what it does. -/
theorem readMembers_next {member : Member} {effect : σ → Option σ} (h : member.Does record effect)
    {first : Bool} {draft : σ} {source rest : Source} (ends : Ends rest)
    (next : nextMember first source = .ok (true, member.source rest)) (fuel : Nat) :
    (readMembers record (fuel + 1) first draft source).toOption
      = (effect draft).bind fun draft =>
          (readMembers record fuel false draft (member.item.back.map some ++ rest)).toOption := by
  obtain ⟨key, spells, does⟩ := h.does
  have done := does draft _ (ends.behind_blanks h.padded.item.back)
  have steps : readMembers record (fuel + 1) first draft source
      = (readMember record draft key (member.back.map some ++ some ':' ::
          (member.item.front.map some ++ (member.item.value.map some ++
            (member.item.back.map some ++ rest))))).bind fun found =>
              readMembers record fuel false found.1 found.2 := by
    simp only [readMembers, next, Member.source, readString_spells spells]
    cases readMember record draft key (member.back.map some ++ some ':' ::
      (member.item.front.map some ++ (member.item.value.map some ++
        (member.item.back.map some ++ rest)))) <;> rfl
  rw [steps, toOption_bind, done, Option.bind_map]
  rfl

/-- The members behind others do what they do up to the end of the object. -/
theorem readMembers_behind {members : List Member} {effects : List (σ → Option σ)}
    (h : List.Forall₂ (Member.Does record) members effects) {fuel : Nat}
    (enough : members.length < fuel) {back : List Char} (blank : IsBlank back) (draft : σ)
    (rest : Source) :
    (readMembers record fuel false draft (back.map some ++
        ((behind (members.map Member.text)).map some ++ some '\x7d' :: rest))).toOption
      = (apply effects draft).map (·, rest) := by
  induction h generalizing fuel back draft with
  | nil =>
      obtain ⟨fuel, rfl⟩ := Nat.exists_eq_add_one_of_ne_zero (Nat.ne_of_gt enough)
      have ending : nextMember false (back.map some ++ some '\x7d' :: rest) = .ok (false, rest) :=
        nextMember_end blank false rest
      simp only [List.map_nil, behind, List.flatMap_nil, List.nil_append, readMembers, ending]
      rfl
  | @cons member effect members effects does more ih =>
      have positive : fuel ≠ 0 := Nat.ne_of_gt (Nat.zero_lt_of_lt enough)
      obtain ⟨fuel, rfl⟩ := Nat.exists_eq_add_one_of_ne_zero positive
      have shape : (behind ((member :: members).map Member.text)).map some ++ some '\x7d' :: rest
          = some ',' :: (member.front.map some ++ some '"' :: member.source
              ((behind (members.map Member.text)).map some ++ some '\x7d' :: rest)) := by
        rw [List.map_cons, behind_cons, List.map_cons, List.map_append, List.cons_append,
          List.append_assoc, Member.text_append]
      have ends : Ends ((behind (members.map Member.text)).map some ++ some '\x7d' :: rest) :=
        ends_behind .object _ rest
      rw [shape, readMembers_next does ends (nextMember_comma blank does.padded.front _),
        apply_cons, Option.map_bind]
      refine Option.bind_congr fun draft' _ => ?_
      exact ih (by simpa using enough) does.padded.item.back draft'

/-- The members are read between the brackets. -/
theorem readMembers_enclosed {members : List Member} {effects : List (σ → Option σ)}
    {text : List Char} (enclosed : IsEnclosed '\x7b' '\x7d' (members.map Member.text) text)
    (h : List.Forall₂ (Member.Does record) members effects) :
    ∃ inner, text = '\x7b' :: inner ∧ ∀ (draft : σ) (rest : Source),
      (readMembers record ((inner.map some ++ rest).length + 1) true draft
        (inner.map some ++ rest)).toOption = (apply effects draft).map (·, rest) := by
  rcases enclosed.cases with ⟨empty, blanks, blank, rfl⟩ | ⟨piece, more, nonempty, rfl⟩
  · refine ⟨_, rfl, fun draft rest => ?_⟩
    cases h with
    | nil =>
        have shape : (blanks ++ ['\x7d']).map some ++ rest
            = blanks.map some ++ some '\x7d' :: rest := by simp
        rw [shape, readMembers, nextMember_end blank true rest]
        rfl
    | cons _ _ => cases empty
  · refine ⟨_, rfl, fun draft rest => ?_⟩
    cases h with
    | nil => cases nonempty
    | @cons member effect members effects does more =>
        obtain ⟨rfl, rfl⟩ := List.cons.inj nonempty
        have shape : (member.text ++ (behind (members.map Member.text) ++ ['\x7d'])).map some
              ++ rest
            = member.front.map some ++ some '"' :: member.source
                ((behind (members.map Member.text)).map some ++ some '\x7d' :: rest) := by
          rw [← Member.text_append]
          simp
        have ends : Ends ((behind (members.map Member.text)).map some ++ some '\x7d' :: rest) :=
          ends_behind .object _ rest
        rw [shape, readMembers_next does ends (nextMember_first does.padded.front _), apply_cons,
          Option.map_bind]
        refine Option.bind_congr fun draft' _ => ?_
        refine readMembers_behind more ?_ does.padded.item.back draft' rest
        -- Every member takes at least one character.
        have long := length_le_behind (members.map Member.text)
        simp only [Member.source, List.length_append, List.length_map, List.length_cons] at long ⊢
        omega

/-- A record is what its members make of an empty draft, when that is finished. -/
theorem decoder_opened {front : List Char} (blank : IsBlank front) (after : Source) :
    (record.decoder (front.map some ++ some '\x7b' :: after)).toOption
      = (readMembers record (after.length + 1) true record.draft after).toOption.bind fun found =>
          (record.finish found.1).toOption.map (·, found.2) := by
  rw [Record.decoder, value_behind blank rfl]
  simp only
  cases readMembers record (after.length + 1) true record.draft after with
  | error e => rfl
  | ok found =>
      dsimp only [Except.toOption, Option.bind_some]
      cases record.finish found.1 <;> rfl

/-- **A record is read from an object: its members do what they do to an empty draft, one after
the other, and the draft is finished.** -/
theorem tells_record {members : List Member} {effects : List (σ → Option σ)} {text : List Char}
    (enclosed : IsEnclosed '\x7b' '\x7d' (members.map Member.text) text)
    (h : List.Forall₂ (Member.Does record) members effects) :
    Tells record.decoder text
      ((apply effects record.draft).bind fun draft => (record.finish draft).toOption) := by
  intro front rest blank
  obtain ⟨inner, rfl, read⟩ := readMembers_enclosed enclosed h
  rw [List.map_cons, List.cons_append, decoder_opened blank, read, Option.bind_map, Option.map_bind]
  rfl

theorem tells_written {members : List (String × List Char)} {effects : List (σ → Option σ)}
    (h : List.Forall₂ (fun member effect => (writtenMember member).Does record effect) members
      effects) :
    Tells record.decoder (objectText members)
      ((apply effects record.draft).bind fun draft => (record.finish draft).toOption) := by
  refine tells_record (isEnclosed_objectText members) ?_
  rwa [List.forall₂_map_left_iff]

theorem tells_isObject {ι : Type} {tells : Member → ι → Prop} {effect : ι → σ → Option σ}
    {xs : List ι} {text : List Char} (h : IsObject tells xs text)
    (does : ∀ member x, member.IsPadded → tells member x → member.Does record (effect x)) :
    Tells record.decoder text
      ((apply (xs.map effect) record.draft).bind fun draft => (record.finish draft).toOption) := by
  obtain ⟨members, parts, told⟩ := h
  refine tells_record parts.enclosed ?_
  have both := (List.forall₂_and_left _ _).2 ⟨parts.padded, told⟩
  rw [List.forall₂_map_right_iff]
  exact both.imp fun member x h => does member x h.1 h.2

end

end WebCapture.Json
