import ImageCatalog.Json.Reader
import ImageCatalog.Json.Writer

/-!
# Layouts

The compact and the pretty text of a value differ in their blanks and in nothing else. A `Layout`
says which blanks those are: the ones in front of each item and each closing bracket, by level, and
the ones behind a colon. What is shown of the texts of all layouts holds of both texts.

## Main definitions

* `Json.Layout` — the blanks between the parts of a text
* `Json.Layout.chars` — the text of a value in a layout

## Main results

* `Json.Layout.chars_tight` — the layout without blanks is the compact one
* `Json.Layout.chars_indented` — the layout of lines and indentation is the pretty one

## Implementation notes

An empty array has no gap between its brackets in either layout, so `Layout.chars` has none there.
The compact writer makes no case of it: its items close with the bracket alone.
-/

namespace ImageCatalog.Json

theorem isSpace_newline (level : Nat) : ∀ c ∈ newline level, isSpace c = true := by
  intro c hc
  rcases List.mem_cons.1 hc with rfl | hc
  · rfl
  · rw [(List.mem_replicate.1 hc).2]
    rfl

/-- The blanks that stand between the parts of a text. -/
structure Layout where
  /-- In front of an item or a closing bracket that stands at a level. -/
  gap : Nat → List Char
  /-- Between a colon and the value behind it. -/
  space : List Char
  isSpace_gap : ∀ level, ∀ c ∈ gap level, isSpace c = true
  isSpace_space : ∀ c ∈ space, isSpace c = true

namespace Layout

/-- No blanks at all. -/
def tight : Layout where
  gap _ := []
  space := []
  isSpace_gap := by simp
  isSpace_space := by simp

/-- A line for each item, indented by its level, and a blank behind each colon. -/
def indented : Layout where
  gap := newline
  space := [' ']
  isSpace_gap := isSpace_newline
  isSpace_space := by simp [isSpace]

mutual

/-- The text of a value at a level. -/
def chars (y : Layout) (level : Nat) : Json → List Char
  | .null => ['n', 'u', 'l', 'l']
  | .bool true => ['t', 'r', 'u', 'e']
  | .bool false => ['f', 'a', 'l', 's', 'e']
  | .number literal => literal
  | .string s => quote? s
  | .array [] => ['[', ']']
  | .array (v :: rest) => '[' :: (y.gap (level + 1) ++ y.items level (v :: rest))
  | .object [] => ['\x7b', '\x7d']
  | .object (m :: rest) => '\x7b' :: (y.gap (level + 1) ++ y.members level (m :: rest))

/-- The items of an array at a level, with the closing bracket. -/
def items (y : Layout) (level : Nat) : List Json → List Char
  | [] => y.gap level ++ [']']
  | [v] => y.chars (level + 1) v ++ (y.gap level ++ [']'])
  | v :: rest => y.chars (level + 1) v ++ ',' :: (y.gap (level + 1) ++ y.items level rest)

/-- The members of an object at a level, with the closing brace. -/
def members (y : Layout) (level : Nat) : List (Option String × Json) → List Char
  | [] => y.gap level ++ ['\x7d']
  | [(k, v)] =>
    quote? k ++ ':' :: (y.space ++ (y.chars (level + 1) v ++ (y.gap level ++ ['\x7d'])))
  | (k, v) :: rest =>
    quote? k ++ ':' :: (y.space ++ (y.chars (level + 1) v ++
      ',' :: (y.gap (level + 1) ++ y.members level rest)))

end

theorem items_cons_cons (y : Layout) (level : Nat) (v w : Json) (others : List Json) :
    y.items level (v :: w :: others) =
      y.chars (level + 1) v ++ ',' :: (y.gap (level + 1) ++ y.items level (w :: others)) := by
  rw [items]
  exact List.cons_ne_nil w others

theorem members_cons_cons (y : Layout) (level : Nat) (key : Option String) (v : Json)
    (m : Option String × Json) (others : List (Option String × Json)) :
    y.members level ((key, v) :: m :: others) =
      quote? key ++ ':' :: (y.space ++ (y.chars (level + 1) v ++
        ',' :: (y.gap (level + 1) ++ y.members level (m :: others)))) := by
  rw [members]
  exact List.cons_ne_nil m others

/-! ### The two layouts of the writer -/

mutual

/-- **The layout without blanks is the compact one.** -/
theorem chars_tight (level : Nat) : ∀ v : Json, tight.chars level v = compactChars v
  | .null => by rw [chars, compactChars]
  | .bool true => by rw [chars, compactChars]
  | .bool false => by rw [chars, compactChars]
  | .number literal => by rw [chars, compactChars]
  | .string s => by rw [chars, compactChars]
  | .array [] => by rw [chars, compactChars, compactItems]
  | .array (v :: rest) => by
    rw [chars, compactChars, items_tight level (v :: rest)]
    rfl
  | .object [] => by rw [chars, compactChars, compactMembers]
  | .object (m :: rest) => by
    rw [chars, compactChars, members_tight level (m :: rest)]
    rfl

theorem items_tight (level : Nat) : ∀ vs : List Json, tight.items level vs = compactItems vs
  | [] => by rw [items, compactItems]; rfl
  | [v] => by rw [items, compactItems, chars_tight (level + 1) v]; rfl
  | v :: w :: others => by
    rw [items_cons_cons, compactItems, chars_tight (level + 1) v, items_tight level (w :: others)]
    · rfl
    · exact List.cons_ne_nil w others

theorem members_tight (level : Nat) :
    ∀ ms : List (Option String × Json), tight.members level ms = compactMembers ms
  | [] => by rw [members, compactMembers]; rfl
  | [(key, v)] => by
    rw [members, compactMembers, chars_tight (level + 1) v, List.append_assoc]
    rfl
  | (key, v) :: m :: others => by
    rw [members_cons_cons, compactMembers, chars_tight (level + 1) v,
      members_tight level (m :: others), List.append_assoc]
    · rfl
    · exact List.cons_ne_nil m others

end

mutual

/-- **The layout of lines and indentation is the pretty one.** -/
theorem chars_indented : ∀ (level : Nat) (v : Json), indented.chars level v = prettyChars level v
  | _, .null => by rw [chars, prettyChars]
  | _, .bool true => by rw [chars, prettyChars]
  | _, .bool false => by rw [chars, prettyChars]
  | _, .number literal => by rw [chars, prettyChars]
  | _, .string s => by rw [chars, prettyChars]
  | _, .array [] => by rw [chars, prettyChars]
  | level, .array (v :: rest) => by
    rw [chars, prettyChars, items_indented level (v :: rest)]
    rfl
  | _, .object [] => by rw [chars, prettyChars]
  | level, .object (m :: rest) => by
    rw [chars, prettyChars, members_indented level (m :: rest)]
    rfl

theorem items_indented :
    ∀ (level : Nat) (vs : List Json), indented.items level vs = prettyItems level vs
  | level, [] => by rw [items, prettyItems]; rfl
  | level, [v] => by
    rw [items, prettyItems, chars_indented (level + 1) v, List.append_assoc]
    rfl
  | level, v :: w :: others => by
    rw [items_cons_cons, prettyItems, chars_indented (level + 1) v,
      items_indented level (w :: others), List.append_assoc]
    · rfl
    · exact List.cons_ne_nil w others

theorem members_indented :
    ∀ (level : Nat) (ms : List (Option String × Json)),
      indented.members level ms = prettyMembers level ms
  | level, [] => by rw [members, prettyMembers]; rfl
  | level, [(key, v)] => by
    rw [members, prettyMembers, chars_indented (level + 1) v]
    simp [indented]
  | level, (key, v) :: m :: others => by
    rw [members_cons_cons, prettyMembers, chars_indented (level + 1) v,
      members_indented level (m :: others)]
    · simp [indented]
    · exact List.cons_ne_nil m others

end

end Layout

end ImageCatalog.Json
