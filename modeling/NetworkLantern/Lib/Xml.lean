import NetworkLantern.Lib.Text
import Mathlib.Data.List.Chain

/-!
# XML as a stream of events

An event reader is a parameter (`XmlReader`): what a program relies on is
`XmlReader.Lawful`, which says what it delivers for a document made of tokens.

* a start or an end tag is one event;
* a text is cut at both ends (space, tab, carriage return, line feed) and is left
  out when nothing remains;
* an entity reference is an event of its own, in the middle of a text too.
-/

namespace NetworkLantern

/-- An attribute of a start tag: unreadable, or its key and its unescaped value. -/
inductive XmlAttribute
  | malformed
  | pair (key : Str) (value : Option Str)
deriving DecidableEq, Repr

/-- What an event reader reports.  A text is `none` when its bytes do not decode. -/
inductive XmlEvent
  | start (tag : Str) (attributes : List XmlAttribute)
  | empty (tag : Str)
  | text (value : Option Str)
  | close (tag : Str)
  | decl
  | comment
  | generalRef (name : Str)
  | other
  | error
deriving DecidableEq, Repr

/-- A reader in its text-trimming mode: the events of a text up to its end or to
the first error. -/
abbrev XmlReader := Str → List XmlEvent

/-- A piece of a document. -/
inductive XmlToken
  | start (tag : Str) (attr : Option (Str × Str))
  | text (value : Str)
  | ref (name : Str)
  | close (tag : Str)
deriving DecidableEq, Repr

namespace XmlToken

def render : XmlToken → Str
  | .start tag none => '<' :: tag ++ ['>']
  | .start tag (some (key, value)) =>
    '<' :: tag ++ ' ' :: key ++ '=' :: '"' :: value ++ ['"', '>']
  | .text value => value
  | .ref name => '&' :: name ++ [';']
  | .close tag => '<' :: '/' :: tag ++ ['>']

def renderAll (doc : List XmlToken) : Str := doc.flatMap render

/-! ## Well-formed documents -/

/-- A name of ASCII letters and digits. -/
def isPlain (s : Str) : Bool := !s.isEmpty && s.all Char.isAlphanum

/-- Character data: not empty, without markup. -/
def isCharData (s : Str) : Bool := !s.isEmpty && s.all fun c => c ≠ '<' && c ≠ '&'

def WellFormed : XmlToken → Prop
  | .start tag none => isPlain tag
  | .start tag (some (key, value)) => isPlain tag ∧ isPlain key ∧ isPlain value
  | .text value => isCharData value
  | .ref name => isPlain name
  | .close tag => isPlain tag

def isText : XmlToken → Bool
  | .text _ => true
  | _ => false

/-- Text runs up to the next markup: no two texts in a row. -/
def Separated (doc : List XmlToken) : Prop := doc.IsChain fun a b => (a.isText && b.isText) = false

/-- The open elements after a token, `none` when an end tag does not match. -/
def nest (open_ : List Str) : XmlToken → Option (List Str)
  | .start tag _ => some (tag :: open_)
  | .close tag => match open_ with
    | top :: rest => if top = tag then some rest else none
    | [] => none
  | _ => some open_

/-- Every element is closed by its own end tag. -/
def Balanced (doc : List XmlToken) : Prop := doc.foldlM nest [] = some []

/-! ## What a reader delivers -/

/-- The characters that trimming removes. -/
def isXmlSpace (c : Char) : Bool := c = ' ' || c = '\t' || c = '\r' || c = '\n'

def trimSpace (s : Str) : Str := Str.trimMatches isXmlSpace s

def events : XmlToken → List XmlEvent
  | .start tag none => [.start tag []]
  | .start tag (some (key, value)) => [.start tag [.pair key (some value)]]
  | .text value => if (trimSpace value).isEmpty then [] else [.text (some (trimSpace value))]
  | .ref name => [.generalRef name]
  | .close tag => [.close tag]

end XmlToken

open XmlToken

/-- The reader delivers the documented events of every document, and whatever it reads,
every text is trimmed. -/
structure XmlReader.Lawful (reader : XmlReader) : Prop where
  documented : ∀ doc : List XmlToken, (∀ t ∈ doc, t.WellFormed) → Separated doc → Balanced doc →
    reader (renderAll doc) = doc.flatMap events
  trimmed : ∀ (s value : Str), .text (some value) ∈ reader s → trimSpace value = value

/-! ## Building documents -/

namespace XmlToken

/-- What may stand inside an element. -/
structure Content (doc : List XmlToken) : Prop where
  wellFormed : ∀ t ∈ doc, t.WellFormed
  nested : ∀ open_, doc.foldlM nest open_ = some open_
  separated : Separated doc

/-- Content that begins and ends with markup, so that anything may stand next to it. -/
structure Block (doc : List XmlToken) : Prop extends Content doc where
  first : ∀ t ∈ doc.head?, t.isText = false
  last : ∀ t ∈ doc.getLast?, t.isText = false

theorem Block.nil : Block [] where
  wellFormed := by simp
  nested := fun _ => rfl
  separated := List.isChain_nil
  first := by simp
  last := by simp

theorem Block.append {a b : List XmlToken} (ha : Block a) (hb : Block b) : Block (a ++ b) where
  wellFormed := by
    intro t ht
    rcases List.mem_append.mp ht with ht | ht
    · exact ha.wellFormed t ht
    · exact hb.wellFormed t ht
  nested := by
    intro open_
    rw [List.foldlM_append, ha.nested]
    exact hb.nested open_
  separated := by
    refine List.isChain_append.mpr ⟨ha.separated, hb.separated, fun x hx y _ => ?_⟩
    rw [ha.last x hx, Bool.false_and]
  first := by
    intro t ht
    rw [List.head?_append] at ht
    rcases ha' : a.head? with _ | x
    · rw [ha', Option.none_or] at ht
      exact hb.first t ht
    · rw [ha', Option.some_or] at ht
      exact ha.first t (ha'.trans ht)
  last := by
    intro t ht
    rw [List.getLast?_append] at ht
    rcases hb' : b.getLast? with _ | x
    · rw [hb', Option.none_or] at ht
      exact ha.last t ht
    · rw [hb', Option.some_or] at ht
      exact hb.last t (hb'.trans ht)

theorem Block.flatMap {α : Type} {f : α → List XmlToken} {l : List α} (h : ∀ a ∈ l, Block (f a)) :
    Block (l.flatMap f) := by
  induction l with
  | nil => exact Block.nil
  | cons a l ih =>
    exact (h a List.mem_cons_self).append (ih fun b hb => h b (List.mem_cons_of_mem a hb))

/-- An element around its content. -/
theorem Block.element {tag : Str} {attr : Option (Str × Str)} {inner : List XmlToken}
    (hs : (start tag attr).WellFormed) (hc : isPlain tag = true) (h : Content inner) :
    Block (start tag attr :: inner ++ [close tag]) where
  wellFormed := by
    intro t ht
    simp only [List.cons_append, List.mem_cons, List.mem_append, List.not_mem_nil, or_false] at ht
    rcases ht with rfl | ht | rfl
    · exact hs
    · exact h.wellFormed t ht
    · exact hc
  nested := by
    intro open_
    show (inner ++ [close tag]).foldlM nest (tag :: open_) = some open_
    rw [List.foldlM_append, h.nested]
    show (if tag = tag then some open_ else none).bind _ = some open_
    rw [if_pos rfl]
    rfl
  separated := by
    have hend : Separated (inner ++ [close tag]) := by
      refine List.isChain_append.mpr ⟨h.separated, List.isChain_singleton _, fun x _ y hy => ?_⟩
      cases hy
      exact Bool.and_false _
    rw [List.cons_append]
    cases hi : inner ++ [close tag] with
    | nil => exact List.isChain_singleton _
    | cons t rest =>
      rw [hi] at hend
      exact List.isChain_cons_cons.mpr ⟨rfl, hend⟩
  first := by
    intro t ht
    cases ht
    rfl
  last := by
    intro t ht
    rw [List.getLast?_append_of_ne_nil _ (by simp)] at ht
    cases ht
    rfl

end XmlToken

/-- A lawful reader on a block. -/
theorem XmlReader.Lawful.read {reader : XmlReader} (h : reader.Lawful) {doc : List XmlToken}
    (hd : Block doc) : reader (renderAll doc) = doc.flatMap events :=
  h.documented doc hd.wellFormed hd.separated (hd.nested [])

end NetworkLantern
