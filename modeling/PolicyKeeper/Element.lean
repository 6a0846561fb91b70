/-!
# Elements

A document is a tree of elements.  An element has a tag, attributes in order,
and content: elements, texts and remarks.  Names that belong to a namespace
carry its address in braces.
-/

namespace PolicyKeeper

inductive Node
  | element (tag : String) (attributes : List (String × String)) (content : List Node)
  | text (s : String)
  /-- A comment or a processing instruction. -/
  | remark
  deriving Inhabited

structure Element where
  tag : String
  attributes : List (String × String)
  content : List Node

namespace Element

def leadingText : List Node → String
  | .text s :: rest => s ++ leadingText rest
  | _ => ""

def text (e : Element) : String := leadingText e.content

def attribute? (e : Element) (name : String) : Option String := e.attributes.lookup name

def toNode (e : Element) : Node := .element e.tag e.attributes e.content

def elementsOf : List Node → List Element
  | [] => []
  | .element tag attributes content :: rest =>
      { tag, attributes, content } :: elementsOf rest
  | .text _ :: rest => elementsOf rest
  | .remark :: rest => elementsOf rest

def children (e : Element) : List Element := elementsOf e.content

@[simp] theorem elementsOf_append (front back : List Node) :
    elementsOf (front ++ back) = elementsOf front ++ elementsOf back := by
  induction front with
  | nil => rfl
  | cons node rest ih => cases node <;> simp [elementsOf, ih]

end Element

end PolicyKeeper
