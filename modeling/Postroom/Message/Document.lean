import Postroom.Document.Reading
import Postroom.Message.Basic

namespace Postroom

open Document Text

def textTable (vs : List (String × String)) : Tree := .table (vs.map fun v => (v.1, .text v.2))

def optionalText : Option String → Tree
  | some s => .text s
  | none => .null

namespace TemplateContent

def toTree (t : TemplateContent) : Tree :=
  .table [("path", .text t.path), ("variables", textTable t.bindings)]

def ofTree? (t : Tree) : Option TemplateContent := do
  match ← record? .strict ["path", "variables"] t with
  | [some (.text path), bindings] =>
    return ⟨path, ← orDefault [] (textMap? .strict) bindings⟩
  | _ => none

def shown (t : TemplateContent) : String :=
  shownRecord "TemplateContent" [("path", quote t.path),
    ("variables", shownMap ((t.bindings.mergeSort fun a b => a.1 ≤ b.1).map fun v =>
      (quote v.1, quote v.2)))]

end TemplateContent

namespace Content

mutual

def toTree : Content → Tree
  | text s => .table [("text", .text s)]
  | template t => .table [("template", t.toTree)]
  | multi parts => .table [("multi", .list (toTrees parts))]

def toTrees : List Content → List Tree
  | [] => []
  | c :: cs => toTree c :: toTrees cs

end

mutual

def ofTree? : Tree → Option Content
  | .table [("text", .text s)] => some (text s)
  | .table [("template", t)] => (TemplateContent.ofTree? t).map template
  | .table [("multi", .list ts)] => (ofTrees? ts).map multi
  | _ => none

def ofTrees? : List Tree → Option (List Content)
  | [] => some []
  | t :: ts =>
    match ofTree? t, ofTrees? ts with
    | some c, some cs => some (c :: cs)
    | _, _ => none

end

mutual

def shown : Content → String
  | text s => shownApply "Text" (quote s)
  | template t => shownApply "Template" t.shown
  | multi parts => shownApply "Multi" (shownList (shownParts parts))

def shownParts : List Content → List String
  | [] => []
  | c :: cs => shown c :: shownParts cs

end

end Content

def quotedOption (s : Option String) : String := shownOption (s.map quote)

namespace Email

def toTree (m : Email) : Tree :=
  .table [("kind", .text "email"), ("subject", .text m.subject), ("from", optionalText m.sender),
    ("to", .list (m.recipients.map .text)), ("content", m.content.toTree)]

def ofTree? (t : Tree) : Option Email := do
  match ← record? .strict ["subject", "from", "to", "content"] t with
  | [some (.text subject), sender, recipients, some content] =>
    return ⟨subject, ← optional Conventions.strict.text? sender,
      ← orDefault [] (texts? .strict) recipients, ← Content.ofTree? content⟩
  | _ => none

def shown (m : Email) : String :=
  shownRecord "Email" [("subject", quote m.subject), ("from", quotedOption m.sender),
    ("to", shownList (m.recipients.map quote)), ("content", m.content.shown)]

end Email

namespace Sms

def toTree (m : Sms) : Tree :=
  .table [("kind", .text "sms"), ("from", optionalText m.sender),
    ("to", .list (m.recipients.map .text)), ("content", m.content.toTree)]

def ofTree? (t : Tree) : Option Sms := do
  match ← record? .strict ["from", "to", "content"] t with
  | [sender, recipients, some content] =>
    return ⟨← optional Conventions.strict.text? sender,
      ← orDefault [] (texts? .strict) recipients, ← Content.ofTree? content⟩
  | _ => none

def shown (m : Sms) : String :=
  shownRecord "Sms" [("from", quotedOption m.sender),
    ("to", shownList (m.recipients.map quote)), ("content", m.content.shown)]

end Sms

def MessageKind.ofName? : String → Option MessageKind
  | "email" => some .email
  | "sms" => some .sms
  | _ => none

def MessageKind.ofTree? (t : Tree) : Option MessageKind := (bareChoice? t).bind ofName?

namespace Message

def toTree : Message → Tree
  | email m => m.toTree
  | sms m => m.toTree

/-- The kind of a message's document, and the document without it. The document is a table whose
field `kind` tells the kind, or a list that begins with it. -/
def kindAndRest? : Tree → Option (MessageKind × Tree)
  | .table fs =>
    match Fields.get? fs "kind" with
    | some (.text k) =>
      (MessageKind.ofName? k).map fun k => (k, .table (fs.filter (·.1 != "kind")))
    | _ => none
  | .list (.text k :: ts) => (MessageKind.ofName? k).map fun k => (k, .list ts)
  | _ => none

def ofTree? (t : Tree) : Option Message := do
  match ← kindAndRest? t with
  | (.email, rest) => (Email.ofTree? rest).map email
  | (.sms, rest) => (Sms.ofTree? rest).map sms

def shown : Message → String
  | email m => shownApply "Email" m.shown
  | sms m => shownApply "Sms" m.shown

end Message

end Postroom
