import Lockstep.Json.Reader
import Lockstep.Json.Value
import Mathlib.Data.Nat.Notation

namespace Lockstep.Json

/-- Nothing but blanks. -/
def Blanks (cs : List Char) : Prop := ∀ c ∈ cs, isBlank c = true

theorem Blanks.nil : Blanks [] := fun _ hc => (List.not_mem_nil hc).elim

theorem Blanks.lineStart (depth : ℕ) : Blanks (lineStart depth) := by
  intro c hc
  obtain rfl | hc := List.mem_cons.mp hc
  · rfl
  · rw [List.eq_of_mem_replicate hc]
    rfl

theorem Blanks.space : Blanks [' '] := by
  intro c hc
  obtain rfl := List.mem_singleton.mp hc
  rfl

theorem skipBlanks_append {b : List Char} (hb : Blanks b) (cs : List Char) :
    skipBlanks (b ++ cs) = skipBlanks cs := by
  induction b with
  | nil => rfl
  | cons c b ih =>
    have hc : isBlank c = true := hb c List.mem_cons_self
    have hrest := ih fun d hd => hb d (List.mem_cons_of_mem c hd)
    rw [← hrest, skipBlanks, List.cons_append, List.dropWhile_cons_of_pos hc]
    rfl

theorem skipBlanks_cons {c : Char} (hc : isBlank c = false) (cs : List Char) :
    skipBlanks (c :: cs) = c :: cs :=
  List.dropWhile_cons_of_neg (by rw [hc]; exact Bool.false_ne_true)

mutual

/-- The given characters are a text of the value. -/
inductive Writes : Json → List Char → Prop
  | null : Writes .null ['n', 'u', 'l', 'l']
  | bool (b : Bool) : Writes (.bool b) (ofBool b)
  | nat (n : ℕ) : Writes (.nat n) (Decimal.digits n)
  | float (x : Float) : Writes (.float x) (Shortest.json x)
  | text (s : String) : Writes (.text s) (quoted s)
  | list {items : List Json} {cs : List Char} (h : WritesItems true items cs) :
      Writes (.list items) ('[' :: cs)
  | record {members : List (String × Json)} {cs : List Char} (h : WritesMembers true members cs) :
      Writes (.record members) ('\x7b' :: cs)

/-- The elements of a list and its closing bracket, with a comma before all but the first element. -/
inductive WritesItems : Bool → List Json → List Char → Prop
  | close {b : List Char} (first : Bool) (hb : Blanks b) : WritesItems first [] (b ++ [']'])
  | item {first : Bool} {item : Json} {rest : List Json} {b cs tail : List Char} (hb : Blanks b)
      (h : Writes item cs) (more : WritesItems false rest tail) :
      WritesItems first (item :: rest) ((if first then [] else [',']) ++ (b ++ (cs ++ tail)))

inductive WritesMembers : Bool → List (String × Json) → List Char → Prop
  | close {b : List Char} (first : Bool) (hb : Blanks b) : WritesMembers first [] (b ++ ['\x7d'])
  | member {first : Bool} {name : String} {value : Json} {rest : List (String × Json)}
      {b b' cs tail : List Char} (hb : Blanks b) (hb' : Blanks b') (h : Writes value cs)
      (more : WritesMembers false rest tail) :
      WritesMembers first ((name, value) :: rest)
        ((if first then [] else [',']) ++ (b ++ (quoted name ++ ':' :: (b' ++ (cs ++ tail)))))

end

mutual

theorem writes_compact : ∀ j : Json, Writes j j.compactChars
  | .null => .null
  | .bool b => .bool b
  | .nat n => .nat n
  | .float x => .float x
  | .text s => .text s
  | .list items => .list (writes_compactItems true items)
  | .record members => .record (writes_compactMembers true members)

theorem writes_compactItems (first : Bool) : ∀ items, WritesItems first items (compactItems first items)
  | [] => .close first .nil
  | item :: rest => .item .nil (writes_compact item) (writes_compactItems false rest)

theorem writes_compactMembers (first : Bool) :
    ∀ members, WritesMembers first members (compactMembers first members)
  | [] => .close first .nil
  | (_, value) :: rest =>
    .member .nil .nil (writes_compact value) (writes_compactMembers false rest)

end

mutual

theorem writes_pretty (depth : ℕ) : ∀ j : Json, Writes j (prettyChars depth j)
  | .null => .null
  | .bool b => .bool b
  | .nat n => .nat n
  | .float x => .float x
  | .text s => .text s
  | .list [] => .list (.close true .nil)
  | .list (item :: rest) => by
    have h : WritesItems true (item :: rest) _ :=
      .item (.lineStart (depth + 1)) (writes_pretty (depth + 1) item) (writes_prettyItems depth rest)
    rw [prettyChars, List.append_assoc]
    exact .list h
  | .record [] => .record (.close true .nil)
  | .record ((name, value) :: rest) => by
    have h : WritesMembers true ((name, value) :: rest) _ :=
      .member (.lineStart (depth + 1)) .space (writes_pretty (depth + 1) value)
        (writes_prettyMembers depth rest)
    rw [prettyChars, List.append_assoc]
    exact .record h

theorem writes_prettyItems (depth : ℕ) : ∀ items, WritesItems false items (prettyItems depth items)
  | [] => .close false (.lineStart depth)
  | item :: rest => by
    rw [prettyItems, List.append_assoc]
    exact .item (.lineStart (depth + 1)) (writes_pretty (depth + 1) item) (writes_prettyItems depth rest)

theorem writes_prettyMembers (depth : ℕ) :
    ∀ members, WritesMembers false members (prettyMembers depth members)
  | [] => .close false (.lineStart depth)
  | (name, value) :: rest => by
    rw [prettyMembers, List.append_assoc]
    exact .member (.lineStart (depth + 1)) .space (writes_pretty (depth + 1) value)
      (writes_prettyMembers depth rest)

end

end Lockstep.Json
