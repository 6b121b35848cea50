import Postroom.Message.Document
import Postroom.Proofs.Document.Flattening
import Postroom.Proofs.Message.Rendering
import Postroom.Requirement.Document

namespace Postroom

open Document

namespace Document

variable {fs : Fields} {kept : String → Bool} {names : List String} {α : Type}

theorem get?_sorted (h : (fs.map Prod.fst).Nodup) (name : String) :
    fs.sorted.get? name = fs.get? name := by
  have hperm : fs.sorted.Perm fs := List.mergeSort_perm fs _
  have hsorted : (fs.sorted.map Prod.fst).Nodup := (hperm.map Prod.fst).nodup_iff.mpr h
  refine Option.ext fun t => ?_
  rw [Fields.get?, Fields.get?, lookup_eq_some_iff_mem hsorted, lookup_eq_some_iff_mem h,
    hperm.mem_iff]

theorem get?_filter (fs : Fields) {name : String} (h : kept name = true) :
    Fields.get? (fs.filter fun e => kept e.1) name = fs.get? name := by
  induction fs with
  | nil => rfl
  | cons e fs ih =>
    simp only [Fields.get?] at *
    rw [lookup_cons_ite]
    by_cases hname : name = e.1
    · rw [List.filter_cons_of_pos (hname ▸ h), lookup_cons_ite, if_pos hname, if_pos hname]
    · rw [if_neg hname, ← ih, List.filter_cons]
      split
      · rw [lookup_cons_ite, if_neg hname]
      · rfl

variable (c : Conventions)

theorem record?_sorted (h : (fs.map Prod.fst).Nodup) :
    record? c names (.table fs.sorted) = record? c names (.table fs) := by
  simp only [record?, get?_sorted h]

theorem record?_filter (fs : Fields) (h : ∀ n ∈ names, kept n = true) :
    record? c names (.table (fs.filter fun e => kept e.1)) = record? c names (.table fs) :=
  congrArg some (List.map_congr_left fun n hn => get?_filter fs (h n hn))

theorem injective_of_read {read : Tree → Option α} {write : α → Tree}
    (h : ∀ a, read (write a) = some a) : Function.Injective write :=
  fun a b hab => Option.some.inj (by rw [← h a, hab, h b])

theorem mapM_written {γ : Type} {read : γ → Option α} (write : α → γ)
    (h : ∀ a, read (write a) = some a) (as : List α) : (as.map write).mapM read = some as := by
  have hread : read ∘ write = some := funext h
  rw [List.mapM_map, hread]
  exact List.mapM_pure.trans (congrArg some (List.map_id as))

theorem texts?_list (ss : List String) : texts? .strict (.list (ss.map .text)) = some ss :=
  mapM_written Tree.text (fun _ => rfl) ss

theorem sorted_text (s : String) : (Tree.text s).sorted = .text s := rfl

theorem sorted_texts (ss : List String) :
    (Tree.list (ss.map .text)).sorted = .list (ss.map .text) := by
  rw [sorted_list, List.map_map]
  rfl

def optionalTree (write : α → Tree) (o : Option α) : Tree := (o.map write).getD .null

theorem optional_optionalTree {read : Tree → Option α} (write : α → Tree)
    (hnull : ∀ a, write a ≠ .null) (h : ∀ a, read (write a) = some a) (o : Option α) :
    Document.optional read (some (optionalTree write o)) = some o := by
  cases o with
  | none => rfl
  | some a =>
    rw [optionalTree, Option.map_some, Option.getD_some, Document.optional, h a, Option.map_some]
    exact hnull a

theorem sorted_optionalTree {write : α → Tree} (h : ∀ a, (write a).sorted = write a)
    (o : Option α) : (optionalTree write o).sorted = optionalTree write o := by
  cases o with
  | none => rfl
  | some a => exact h a

end Document

theorem optionalText_eq (s : Option String) : optionalText s = optionalTree .text s := by
  cases s <;> rfl

theorem optional_optionalText (s : Option String) :
    optional Conventions.strict.text? (some (optionalText s)) = some s := by
  rw [optionalText_eq]
  exact optional_optionalTree .text (by simp) (fun _ => rfl) s

theorem sorted_optionalText (s : Option String) : (optionalText s).sorted = optionalText s := by
  rw [optionalText_eq, sorted_optionalTree sorted_text]

def orderedTexts (vs : List (String × String)) : List (String × String) :=
  vs.mergeSort fun a b => a.1 ≤ b.1

theorem sorted_textTable (vs : List (String × String)) :
    (textTable vs).sorted = textTable (orderedTexts vs) := by
  have hmap : (orderedTexts vs).map (fun v => (v.1, Tree.text v.2)) =
      Fields.sorted (vs.map fun v => (v.1, .text v.2)) := List.map_mergeSort fun _ _ _ _ => rfl
  rw [textTable, sorted_table, List.map_map, textTable, hmap]
  rfl

theorem textMap?_textTable (vs : List (String × String)) :
    textMap? .strict (textTable vs) = some vs := by
  rw [textTable, textMap?]
  exact mapM_written (fun v : String × String => (v.1, Tree.text v.2)) (fun _ => rfl) vs

namespace TemplateContent

def ordered (t : TemplateContent) : TemplateContent :=
  { t with bindings := orderedTexts t.bindings }

theorem ofTree?_toTree (t : TemplateContent) : ofTree? t.toTree = some t := by
  have hbindings := textMap?_textTable t.bindings
  simp [ofTree?, toTree, record?, Fields.get?, lookup_cons_ite, orDefault, hbindings]

theorem sorted_toTree (t : TemplateContent) : t.toTree.sorted = t.ordered.toTree := by
  rw [toTree, sorted_table]
  simp only [List.map_cons, List.map_nil, sorted_textTable]
  -- the fields of a template are written in the order of their names
  exact congrArg Tree.table (List.mergeSort_of_pairwise (by simp))

end TemplateContent

namespace Content

mutual

def ordered : Content → Content
  | text s => text s
  | template t => template t.ordered
  | multi parts => multi (orderedParts parts)

def orderedParts : List Content → List Content
  | [] => []
  | c :: cs => ordered c :: orderedParts cs

end

theorem ofTree?_toTree (c : Content) : ofTree? c.toTree = some c := by
  induction c with
  | text s => rfl
  | template t => rw [toTree, ofTree?, t.ofTree?_toTree, Option.map_some]
  | multi parts ih =>
    have hparts : ofTrees? (toTrees parts) = some parts := by
      induction parts with
      | nil => rfl
      | cons c cs ihcs =>
        obtain ⟨hc, hcs⟩ := List.forall_mem_cons.mp ih
        rw [toTrees, ofTrees?, hc, ihcs hcs]
    rw [toTree, ofTree?, hparts, Option.map_some]

theorem sorted_toTree (c : Content) : c.toTree.sorted = c.ordered.toTree := by
  have hsingle : ∀ name t, (Tree.table [(name, t)]).sorted = .table [(name, t.sorted)] := by
    intro name t
    rw [sorted_table, Fields.sorted, List.map_singleton, List.mergeSort_singleton]
  induction c with
  | text s => rw [toTree, hsingle, sorted_text, ordered, toTree]
  | template t => rw [toTree, hsingle, t.sorted_toTree, ordered, toTree]
  | multi parts ih =>
    have hparts : sortedItems (toTrees parts) = toTrees (orderedParts parts) := by
      induction parts with
      | nil => rfl
      | cons c cs ihcs =>
        obtain ⟨hc, hcs⟩ := List.forall_mem_cons.mp ih
        rw [toTrees, sortedItems, hc, ihcs hcs, orderedParts, toTrees]
    rw [toTree, hsingle, Tree.sorted, hparts, ordered, toTree]

end Content

namespace Email

def ordered (m : Email) : Email := { m with content := m.content.ordered }

theorem ofTree?_sorted {fs : Fields} (h : (fs.map Prod.fst).Nodup) :
    ofTree? (.table fs.sorted) = ofTree? (.table fs) := by
  simp only [ofTree?, record?_sorted _ h]

theorem ofTree?_filter (kept : String → Bool) (fs : Fields)
    (h : ∀ n ∈ ["subject", "from", "to", "content"], kept n = true) :
    ofTree? (.table (fs.filter fun e => kept e.1)) = ofTree? (.table fs) := by
  simp only [ofTree?, record?_filter _ fs h]

theorem ofTree?_toTree (m : Email) : ofTree? m.toTree = some m := by
  have hsender := optional_optionalText m.sender
  have hrecipients := texts?_list m.recipients
  have hcontent := m.content.ofTree?_toTree
  simp [ofTree?, toTree, record?, Fields.get?, lookup_cons_ite, orDefault, hsender, hrecipients,
    hcontent]

end Email

namespace Sms

def ordered (m : Sms) : Sms := { m with content := m.content.ordered }

theorem ofTree?_sorted {fs : Fields} (h : (fs.map Prod.fst).Nodup) :
    ofTree? (.table fs.sorted) = ofTree? (.table fs) := by
  simp only [ofTree?, record?_sorted _ h]

theorem ofTree?_filter (kept : String → Bool) (fs : Fields)
    (h : ∀ n ∈ ["from", "to", "content"], kept n = true) :
    ofTree? (.table (fs.filter fun e => kept e.1)) = ofTree? (.table fs) := by
  simp only [ofTree?, record?_filter _ fs h]

theorem ofTree?_toTree (m : Sms) : ofTree? m.toTree = some m := by
  have hsender := optional_optionalText m.sender
  have hrecipients := texts?_list m.recipients
  have hcontent := m.content.ofTree?_toTree
  simp [ofTree?, toTree, record?, Fields.get?, lookup_cons_ite, orDefault, hsender, hrecipients,
    hcontent]

end Sms

namespace Message

/-- The message with the variables of every template in the order of their names. -/
def ordered : Message → Message
  | email m => email m.ordered
  | sms m => sms m.ordered

theorem ofTree?_table (fs : Fields) :
    ofTree? (.table fs) = match fs.get? "kind" with
      | some (.text k) => (MessageKind.ofName? k).bind fun
        | .email => (Email.ofTree? (.table fs)).map email
        | .sms => (Sms.ofTree? (.table fs)).map sms
      | _ => none := by
  have hemail := Email.ofTree?_filter (· != "kind") fs (by decide)
  have hsms := Sms.ofTree?_filter (· != "kind") fs (by decide)
  rw [ofTree?, kindAndRest?]
  cases fs.get? "kind" with
  | none => rfl
  | some t =>
    cases t with
    | text k =>
      cases hk : MessageKind.ofName? k with
      | none => simp [hk]
      | some kind => cases kind <;> simp [hk, hemail, hsms]
    | _ => rfl

theorem ofTree?_sorted {fs : Fields} (h : (fs.map Prod.fst).Nodup) :
    ofTree? (.table fs.sorted) = ofTree? (.table fs) := by
  rw [ofTree?_table, ofTree?_table, get?_sorted h, Email.ofTree?_sorted h, Sms.ofTree?_sorted h]

theorem ofTree?_toTree (m : Message) : ofTree? m.toTree = some m := by
  cases m with
  | email m =>
    have hrest : Email.ofTree? m.toTree = some m := m.ofTree?_toTree
    rw [Email.toTree] at hrest
    rw [toTree, Email.toTree, ofTree?_table, hrest]
    rfl
  | sms m =>
    have hrest : Sms.ofTree? m.toTree = some m := m.ofTree?_toTree
    rw [Sms.toTree] at hrest
    rw [toTree, Sms.toTree, ofTree?_table, hrest]
    rfl

theorem exists_fields (m : Message) : ∃ fs : Fields, (fs.map Prod.fst).Nodup ∧
    m.ordered.toTree = .table fs ∧ m.toTree.sorted = .table fs.sorted := by
  cases m with
  | email m =>
    refine ⟨_, ?_, rfl, ?_⟩
    · simp
    · rw [toTree, Email.toTree, sorted_table]
      simp [Email.ordered, sorted_optionalText, sorted_texts, m.content.sorted_toTree, sorted_text]
  | sms m =>
    refine ⟨_, ?_, rfl, ?_⟩
    · simp
    · rw [toTree, Sms.toTree, sorted_table]
      simp [Sms.ordered, sorted_optionalText, sorted_texts, m.content.sorted_toTree, sorted_text]

theorem ofTree?_sorted_toTree (m : Message) : ofTree? m.toTree.sorted = some m.ordered := by
  obtain ⟨fs, hfs, hordered, hsorted⟩ := m.exists_fields
  rw [hsorted, ofTree?_sorted hfs, ← hordered, ofTree?_toTree]

theorem sorted_toTree_inj {m m' : Message} :
    m.toTree.sorted = m'.toTree.sorted ↔ m.ordered = m'.ordered := by
  constructor
  · intro h
    have hread := m'.ofTree?_sorted_toTree
    rw [← h, ofTree?_sorted_toTree] at hread
    exact Option.some.inj hread
  · intro h
    obtain ⟨fs, -, hordered, hsorted⟩ := m.exists_fields
    obtain ⟨fs', -, hordered', hsorted'⟩ := m'.exists_fields
    rw [h, hordered'] at hordered
    cases hordered
    rw [hsorted, hsorted']

end Message

theorem texts?_textList (ss : List String) : texts? .strict (textList ss) = some ss :=
  texts?_list ss

theorem sorted_textList (ss : List String) : (textList ss).sorted = textList ss := sorted_texts ss

theorem strict_text (s : String) : Conventions.strict.text? (.text s) = some s := rfl

namespace RequiredComponent

theorem ofTree?_toTree (r : RequiredComponent) : ofTree? .strict r.toTree = some r := by
  simp [ofTree?, toTree, record?, Fields.get?, lookup_cons_ite, orDefault, strict_text,
    texts?_textList]

theorem ofTree?_sorted {fs : Fields} (h : (fs.map Prod.fst).Nodup) :
    ofTree? .strict (.table fs.sorted) = ofTree? .strict (.table fs) := by
  simp only [ofTree?, record?_sorted _ h]

theorem ofTree?_sorted_toTree (r : RequiredComponent) :
    ofTree? .strict r.toTree.sorted = some r := by
  have hread := r.ofTree?_toTree
  rw [toTree] at hread
  rw [toTree, sorted_table]
  simp only [List.map_cons, List.map_nil, sorted_text, sorted_textList]
  rw [ofTree?_sorted (by simp), hread]

end RequiredComponent

namespace ValueConstraint

theorem toTree_ne_null (k : ValueConstraint) : k.toTree ≠ .null := by cases k <;> simp [toTree]

theorem ofTree?_toTree (k : ValueConstraint) : ofTree? .strict k.toTree = some k := by
  cases k <;> rfl

theorem sorted_toTree (k : ValueConstraint) : k.toTree.sorted = k.toTree := by
  cases k <;> simp [toTree, sorted_table, Fields.sorted, sorted_text]

end ValueConstraint

namespace RequiredProperty

theorem toTree_eq (r : RequiredProperty) :
    r.toTree = .table [("key", .text r.key), ("alternatives", textList r.alternatives),
      ("excludes", textList r.excludes),
      ("constraint", optionalTree ValueConstraint.toTree r.constraint)] := by
  rw [toTree]
  cases r.constraint <;> rfl

theorem ofTree?_toTree (r : RequiredProperty) : ofTree? .strict r.toTree = some r := by
  have hconstraint := optional_optionalTree ValueConstraint.toTree ValueConstraint.toTree_ne_null
    ValueConstraint.ofTree?_toTree r.constraint
  simp [ofTree?, toTree_eq, record?, Fields.get?, lookup_cons_ite, orDefault, strict_text,
    texts?_textList, hconstraint]

theorem ofTree?_sorted {fs : Fields} (h : (fs.map Prod.fst).Nodup) :
    ofTree? .strict (.table fs.sorted) = ofTree? .strict (.table fs) := by
  simp only [ofTree?, record?_sorted _ h]

theorem ofTree?_sorted_toTree (r : RequiredProperty) :
    ofTree? .strict r.toTree.sorted = some r := by
  have hread := r.ofTree?_toTree
  rw [toTree_eq] at hread
  rw [toTree_eq, sorted_table]
  simp only [List.map_cons, List.map_nil, sorted_text, sorted_textList,
    sorted_optionalTree ValueConstraint.sorted_toTree]
  rw [ofTree?_sorted (by simp), hread]

end RequiredProperty

namespace Requirements

theorem ofTree?_table {component : RequiredComponent → Tree} {property : RequiredProperty → Tree}
    (hcomponent : ∀ c, RequiredComponent.ofTree? .strict (component c) = some c)
    (hproperty : ∀ p, RequiredProperty.ofTree? .strict (property p) = some p) (r : Requirements) :
    ofTree? .strict (.table [("components", textList r.components),
      ("component_specs", .list (r.componentSpecs.map component)),
      ("properties", textList r.properties),
      ("property_specs", .list (r.propertySpecs.map property))]) = some r := by
  have hcomponents := mapM_written component hcomponent r.componentSpecs
  have hproperties := mapM_written property hproperty r.propertySpecs
  simp [ofTree?, record?, Fields.get?, lookup_cons_ite, orDefault, texts?_textList, listOf?,
    hcomponents, hproperties]

theorem ofTree?_toTree (r : Requirements) : ofTree? .strict r.toTree = some r :=
  r.ofTree?_table RequiredComponent.ofTree?_toTree RequiredProperty.ofTree?_toTree

theorem ofTree?_sorted {fs : Fields} (h : (fs.map Prod.fst).Nodup) :
    ofTree? .strict (.table fs.sorted) = ofTree? .strict (.table fs) := by
  simp only [ofTree?, record?_sorted _ h]

theorem ofTree?_sorted_toTree (r : Requirements) : ofTree? .strict r.toTree.sorted = some r := by
  rw [toTree, sorted_table]
  simp only [List.map_cons, List.map_nil, sorted_textList, sorted_list, List.map_map]
  rw [ofTree?_sorted (by simp)]
  exact r.ofTree?_table RequiredComponent.ofTree?_sorted_toTree
    RequiredProperty.ofTree?_sorted_toTree

end Requirements

/-- Messages and requirements are read back from their documents as they were, and so are they when
the fields of every table have been put in the order of their names: then the variables of a
template, which are a table, come in that order. So two messages that differ in more than the order
of variables, and two requirements that differ at all, have different documents in either order. -/
theorem documents_read_back (m m' : Message) (r r' : Requirements) :
    Message.ofTree? m.toTree = some m ∧ Message.ofTree? m.toTree.sorted = some m.ordered ∧
    (m.toTree = m'.toTree ↔ m = m') ∧
    (m.toTree.sorted = m'.toTree.sorted ↔ m.ordered = m'.ordered) ∧
    Requirements.ofTree? .strict r.toTree = some r ∧
    Requirements.ofTree? .strict r.toTree.sorted = some r ∧
    (r.toTree = r'.toTree ↔ r = r') ∧ (r.toTree.sorted = r'.toTree.sorted ↔ r = r') := by
  have hmessage : Function.Injective Message.toTree := injective_of_read Message.ofTree?_toTree
  have hrequirements : Function.Injective Requirements.toTree :=
    injective_of_read Requirements.ofTree?_toTree
  have hsorted : Function.Injective fun r : Requirements => r.toTree.sorted :=
    injective_of_read Requirements.ofTree?_sorted_toTree
  exact ⟨m.ofTree?_toTree, m.ofTree?_sorted_toTree, hmessage.eq_iff, Message.sorted_toTree_inj,
    r.ofTree?_toTree, r.ofTree?_sorted_toTree, hrequirements.eq_iff, hsorted.eq_iff⟩

end Postroom
