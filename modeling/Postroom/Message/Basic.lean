import Postroom.Selection.Adapter

namespace Postroom

open Text

inductive MessageKind
  | email | sms
  deriving DecidableEq, Repr

namespace MessageKind

def name : MessageKind → String
  | email => "email"
  | sms => "sms"

def shown : MessageKind → String
  | email => "Email"
  | sms => "Sms"

end MessageKind

structure TemplateContent where
  path : String
  bindings : List (String × String) := []
  deriving DecidableEq, Repr

def TemplateContent.withVariable (t : TemplateContent) (name value : String) : TemplateContent :=
  { t with bindings := putKey name value t.bindings }

inductive Content
  | text (s : String)
  | template (t : TemplateContent)
  | multi (parts : List Content)
  deriving Inhabited, Repr

structure Email where
  subject : String
  sender : Option String := none
  recipients : List String := []
  content : Content
  deriving Repr

structure Sms where
  sender : Option String := none
  recipients : List String := []
  content : Content
  deriving Repr

inductive Message
  | email (m : Email)
  | sms (m : Sms)
  deriving Repr

namespace Content

def isTemplate : Content → Bool
  | template _ => true
  | _ => false

def text? : Content → Option String
  | text s => some s
  | _ => none

end Content

def Email.addRecipient (m : Email) (address : String) : Email :=
  { m with recipients := m.recipients ++ [address] }

def Sms.addRecipient (m : Sms) (number : String) : Sms :=
  { m with recipients := m.recipients ++ [number] }

namespace Message

def kind : Message → MessageKind
  | email _ => .email
  | sms _ => .sms

def content : Message → Content
  | email m => m.content
  | sms m => m.content

def recipients : Message → List String
  | email m => m.recipients
  | sms m => m.recipients

def withContent : Message → Content → Message
  | email m, c => email { m with content := c }
  | sms m, c => sms { m with content := c }

end Message

end Postroom
