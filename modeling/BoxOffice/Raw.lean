import BoxOffice.Decimal.Floating
import BoxOffice.Text.Quoted

/-! Values as callers hand them in, before any check, and how a message shows them. What nobody
checks is recorded as it was given. -/
namespace BoxOffice

inductive Raw
  | nothing
  | truth (value : Bool)
  | whole (value : Int)
  | fraction (value : Floating)
  | text (value : String)
  | list (items : List Raw)
  | record (fields : List (String × Raw))
  deriving Inhabited, Repr

namespace Raw

mutual

def decEq : (a b : Raw) → Decidable (a = b)
  | nothing, b =>
    match b with
    | nothing => isTrue rfl
    | truth _ | whole _ | fraction _ | text _ | list _ | record _ => isFalse nofun
  | truth a, b =>
    match b with
    | truth b => if h : a = b then isTrue (congrArg truth h) else isFalse (h <| truth.inj ·)
    | nothing | whole _ | fraction _ | text _ | list _ | record _ => isFalse nofun
  | whole a, b =>
    match b with
    | whole b => if h : a = b then isTrue (congrArg whole h) else isFalse (h <| whole.inj ·)
    | nothing | truth _ | fraction _ | text _ | list _ | record _ => isFalse nofun
  | fraction a, b =>
    match b with
    | fraction b =>
      if h : a = b then isTrue (congrArg fraction h) else isFalse (h <| fraction.inj ·)
    | nothing | truth _ | whole _ | text _ | list _ | record _ => isFalse nofun
  | text a, b =>
    match b with
    | text b => if h : a = b then isTrue (congrArg text h) else isFalse (h <| text.inj ·)
    | nothing | truth _ | whole _ | fraction _ | list _ | record _ => isFalse nofun
  | list a, b =>
    match b with
    | list b =>
      match decEqItems a b with
      | isTrue h => isTrue (congrArg list h)
      | isFalse h => isFalse (h <| list.inj ·)
    | nothing | truth _ | whole _ | fraction _ | text _ | record _ => isFalse nofun
  | record a, b =>
    match b with
    | record b =>
      match decEqFields a b with
      | isTrue h => isTrue (congrArg record h)
      | isFalse h => isFalse (h <| record.inj ·)
    | nothing | truth _ | whole _ | fraction _ | text _ | list _ => isFalse nofun

def decEqItems : (a b : List Raw) → Decidable (a = b)
  | [], [] => isTrue rfl
  | [], _ :: _ | _ :: _, [] => isFalse nofun
  | a :: as, b :: bs =>
    match decEq a b, decEqItems as bs with
    | isTrue h, isTrue hs => isTrue (by rw [h, hs])
    | isFalse h, _ => isFalse fun eq => h (List.cons.inj eq).1
    | _, isFalse hs => isFalse fun eq => hs (List.cons.inj eq).2

def decEqFields : (a b : List (String × Raw)) → Decidable (a = b)
  | [], [] => isTrue rfl
  | [], _ :: _ | _ :: _, [] => isFalse nofun
  | (m, a) :: as, (n, b) :: bs =>
    if hn : m = n then
      match decEq a b, decEqFields as bs with
      | isTrue h, isTrue hs => isTrue (by rw [hn, h, hs])
      | isFalse h, _ => isFalse fun eq => h (Prod.mk.inj (List.cons.inj eq).1).2
      | _, isFalse hs => isFalse fun eq => hs (List.cons.inj eq).2
    else isFalse fun eq => hn (Prod.mk.inj (List.cons.inj eq).1).1

end

instance : DecidableEq Raw := decEq

def joined : List (List Char) → List Char
  | [] => []
  | [item] => item
  | item :: rest => item ++ ',' :: ' ' :: joined rest

mutual

def chars : Raw → List Char
  | nothing => "None".toList
  | truth value => if value then "True".toList else "False".toList
  | whole value => (toString value).toList
  | fraction value => value.chars
  | text value => (Text.quoted value).toList
  | list items => '[' :: joined (itemChars items) ++ [']']
  | record fields => '\x7b' :: joined (fieldChars fields) ++ ['\x7d']

def itemChars : List Raw → List (List Char)
  | [] => []
  | item :: rest => item.chars :: itemChars rest

def fieldChars : List (String × Raw) → List (List Char)
  | [] => []
  | (name, value) :: rest =>
    ((Text.quoted name).toList ++ ':' :: ' ' :: value.chars) :: fieldChars rest

end

def shown (value : Raw) : String :=
  String.ofList value.chars

def plain : Raw → String
  | text value => value
  | value => value.shown

def isBlank : Raw → Bool
  | nothing => true
  | truth value => !value
  | whole value => value == 0
  | fraction value => value.isZero
  | text value => value.isEmpty
  | list items => items.isEmpty
  | record fields => fields.isEmpty

def words? : Raw → Option String
  | text value => if value.isEmpty then none else some value
  | _ => none

def number? : Raw → Option Int
  | whole value => some value
  | truth value => some (if value then 1 else 0)
  | _ => none

end Raw
end BoxOffice
