import Greendot.Ctl.Csi
import Greendot.Text.Json

/-!
# The text of a state file

`serdeJson` is the codec of the record: the compact text `serde_json::to_writer` produces for the
derived `Serialize` of `State`, and a reader of these texts.  It is an instance of `StateJson`, so
everything proved for a lawful codec holds of the files the daemon writes.
-/

namespace Greendot

open JsonText
open Std (ExtTreeSet)

namespace StateText

/-- A key or a string value. -/
def str (s : String) : Token := .text s.toList

/-- The tokens of `Option<Owner>`. -/
def ownerTokens : Option Owner → List Token
  | none => [.null]
  | some o =>
    [.punct '\x7b', str "host", .punct ':', str o.host, .punct ',', str "attachment", .punct ':',
      str o.attachment, .punct '\x7d']

/-- The elements after the first one. -/
def moreTokens : List String → List Token
  | [] => [.punct ']']
  | u :: us => .punct ',' :: str u :: moreTokens us

/-- The elements of an array of strings, and its end. -/
def itemTokens : List String → List Token
  | [] => [.punct ']']
  | u :: us => str u :: moreTokens us

/-- The tokens of a record. -/
def tokens (st : CsiState) : List Token :=
  [.punct '\x7b', str "owner", .punct ':'] ++ ownerTokens st.owner ++
    [.punct ',', str "fenced", .punct ':', .punct '['] ++ itemTokens st.fenced.toList ++
    [.punct '\x7d']

/-- Read the elements after the first one. -/
def readMore : List Token → Option (List String × List Token)
  | .punct ']' :: ts => some ([], ts)
  | .punct ',' :: .text u :: ts => (readMore ts).map fun p => (String.ofList u :: p.1, p.2)
  | _ => none

/-- Read the elements of an array of strings. -/
def readItems : List Token → Option (List String × List Token)
  | .punct ']' :: ts => some ([], ts)
  | .text u :: ts => (readMore ts).map fun p => (String.ofList u :: p.1, p.2)
  | _ => none

/-- Read an owner. -/
def readOwner : List Token → Option (Option Owner × List Token)
  | .null :: ts => some (none, ts)
  | .punct '\x7b' :: .text k :: .punct ':' :: .text h :: .punct ',' :: .text l :: .punct ':' ::
      .text a :: .punct '\x7d' :: ts =>
    if k = "host".toList ∧ l = "attachment".toList then
      some (some ⟨String.ofList h, String.ofList a⟩, ts)
    else none
  | _ => none

/-- Read what follows the owner. -/
def readFenced : List Token → Option (List String)
  | .punct ',' :: .text k :: .punct ':' :: .punct '[' :: ts =>
    if k = "fenced".toList then
      (readItems ts).bind fun p => if p.2 = [.punct '\x7d'] then some p.1 else none
    else none
  | _ => none

/-- Read a record. -/
def read : List Token → Option CsiState
  | .punct '\x7b' :: .text k :: .punct ':' :: ts =>
    if k = "owner".toList then
      (readOwner ts).bind fun p => (readFenced p.2).map fun us => ⟨p.1, ExtTreeSet.ofList us⟩
    else none
  | _ => none

theorem readMore_moreTokens (us : List String) (ts : List Token) :
    readMore (moreTokens us ++ ts) = some (us, ts) := by
  induction us with
  | nil => rfl
  | cons u us ih => simp [moreTokens, readMore, str, ih, String.ofList_toList]

theorem readItems_itemTokens (us : List String) (ts : List Token) :
    readItems (itemTokens us ++ ts) = some (us, ts) := by
  cases us with
  | nil => rfl
  | cons u us => simp [itemTokens, readItems, str, readMore_moreTokens, String.ofList_toList]

theorem readOwner_ownerTokens (o : Option Owner) (ts : List Token) :
    readOwner (ownerTokens o ++ ts) = some (o, ts) := by
  cases o with
  | none => rfl
  | some o => simp [ownerTokens, readOwner, str, String.ofList_toList]

theorem ofList_toList (s : ExtTreeSet String) : ExtTreeSet.ofList s.toList = s := by
  refine ExtTreeSet.ext_mem fun x => ?_
  simp

theorem read_tokens (st : CsiState) : read (tokens st) = some st := by
  simp only [tokens, List.cons_append, List.nil_append, List.append_assoc]
  rw [str, read, if_pos rfl, readOwner_ownerTokens, Option.bind_some]
  rw [str, readFenced, if_pos rfl, readItems_itemTokens, Option.bind_some, if_pos rfl,
    Option.map_some, ofList_toList]

theorem isValid_moreTokens (us : List String) : (moreTokens us).all Token.isValid = true := by
  induction us with
  | nil => decide
  | cons u us ih =>
    rw [moreTokens, List.all_cons, List.all_cons, ih]
    rfl

theorem isValid_tokens (st : CsiState) : (tokens st).all Token.isValid = true := by
  have howner : (ownerTokens st.owner).all Token.isValid = true := by
    cases st.owner with
    | none => rfl
    | some o => rfl
  have hitems : (itemTokens st.fenced.toList).all Token.isValid = true := by
    cases st.fenced.toList with
    | nil => decide
    | cons u us => exact isValid_moreTokens us
  simp only [tokens, List.all_append, howner, hitems, str]
  decide

end StateText

open StateText in
/-- The codec of the state files. -/
def serdeJson : StateJson where
  toWriter st := (tokens st).flatMap Token.print
  fromSlice text :=
    match (lex .outside text).bind read with
    | some st => .ok st
    | none => .error (.mkOther "invalid state record")
  fromSlice_toWriter st := by
    rw [lex_print (isValid_tokens st), Option.bind_some, read_tokens]

example : serdeJson.toWriter ⟨some ⟨"h", "u"⟩, ExtTreeSet.ofList ["t"]⟩ =
    "\x7b\"owner\":\x7b\"host\":\"h\",\"attachment\":\"u\"\x7d,\"fenced\":[\"t\"]\x7d".toList := by
  decide

end Greendot
