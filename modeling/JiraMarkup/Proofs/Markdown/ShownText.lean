/-
  The text that a stream carries for its reader: that of its text, code and HTML, except what
  describes an image.

  * `shownText` is read off the events of a stream, `Inline.shown` and `Node.shown` off trees;
  * `shownText_eventsAll`: the stream of trees carries the text of the trees.
-/
import JiraMarkup.Proofs.Markdown.Node

namespace JiraMarkup.Markdown

/-! ## Streams -/

/-- The text that an event carries. -/
def Event.ownText : Event → Text
  | .text t | .code t | .html t | .inlineHtml t => t
  | _ => []

/-- How many images are open after an event, if `n` are before it. -/
def imagesAfter (n : Nat) : Event → Nat
  | .enter (.image _ _) => n + 1
  | .leave (.image _ _) => n - 1
  | _ => n

/-- The text that the events of a stream carry outside images, of which `n` are open. -/
def shownText (n : Nat) : List Event → Text
  | [] => []
  | e :: es => (if n = 0 then e.ownText else []) ++ shownText (imagesAfter n e) es

/-! ## Trees -/

/-- What a wrapper shows of the text in it. -/
def Wrapper.shown (inner : Text) : Wrapper → Text
  | .image _ _ => []
  | _ => inner

mutual

/-- The text that a piece of running text shows. -/
def Inline.shown : Inline → Text
  | .text t | .code t | .html t => t
  | .softBreak | .hardBreak | .taskMarker _ => []
  | .emphasis inner | .strong inner | .strikethrough inner | .link _ _ _ inner
  | .plainSpan inner => Inline.shownAll inner
  | .image _ _ _ => []

/-- The text that running text shows. -/
def Inline.shownAll : List Inline → Text
  | [] => []
  | i :: is => Inline.shown i ++ Inline.shownAll is

end

/-- The text of a piece of an HTML block. -/
def HtmlPiece.text : HtmlPiece → Text
  | .indent t | .raw t => t

/-- The text that a row of cells shows. -/
def shownRow (cells : List (List Inline)) : Text := cells.flatMap Inline.shownAll

mutual

/-- The text that a tree shows. -/
def Node.shown : Node → Text
  | .inline i => i.shown
  | .rule | .verbatim _ => []
  | .within w inner => w.shown (Node.shownAll inner)
  | .code _ pieces => pieces.flatten
  | .html pieces => pieces.flatMap HtmlPiece.text
  | .table _ head rows => shownRow head ++ rows.flatMap shownRow

/-- The text that the trees of a list show. -/
def Node.shownAll : List Node → Text
  | [] => []
  | n :: ns => Node.shown n ++ Node.shownAll ns

end

/-! ## The stream of trees -/

/-- A part of a stream that carries the text `t` and leaves no image open or closed. -/
def Carries (es : List Event) (t : Text) : Prop :=
  ∀ n rest, shownText n (es ++ rest) = (if n = 0 then t else []) ++ shownText n rest

namespace Carries

variable {es es' : List Event} {t t' : Text}

theorem nil : Carries [] [] := by
  intro n rest
  simp

/-- An event that is no part of an image. -/
theorem single {e : Event} (h : ∀ n, imagesAfter n e = n) : Carries [e] e.ownText := by
  intro n rest
  rw [List.singleton_append, shownText, h]

theorem append (h : Carries es t) (h' : Carries es' t') : Carries (es ++ es') (t ++ t') := by
  intro n rest
  rw [List.append_assoc, h, h']
  by_cases hn : n = 0 <;> simp [hn]

/-- A part of a stream in a wrapper. In an image, at least one is open. -/
theorem wrap (w : Wrapper) (h : Carries es t) :
    Carries (.enter w.tag :: (es ++ [.leave w.tag])) (w.shown t) := by
  intro n rest
  rw [List.cons_append, List.append_assoc, List.singleton_append, shownText, h, shownText]
  cases w <;> by_cases hn : n = 0 <;>
    simp [Wrapper.tag, Wrapper.shown, imagesAfter, Event.ownText, hn]

/-- A part of a stream in a container that is no image. -/
theorem within {tag : Tag} (hin : ∀ n, imagesAfter n (.enter tag) = n)
    (hout : ∀ n, imagesAfter n (.leave tag) = n) (h : Carries es t) :
    Carries (.enter tag :: (es ++ [.leave tag])) t := by
  have hall := (single hin).append (h.append (single hout))
  simpa [Event.ownText] using hall

/-- The parts of a stream that come of the members of a list. -/
theorem flatMap {α : Type} {f : α → List Event} {g : α → Text} (h : ∀ x, Carries (f x) (g x)) :
    ∀ xs : List α, Carries (xs.flatMap f) (xs.flatMap g)
  | [] => nil
  | x :: xs => (h x).append (flatMap h xs)

end Carries

mutual

theorem Inline.carries_events : ∀ i : Inline, Carries i.events i.shown
  | .text _ => .single fun _ => rfl
  | .code _ => .single fun _ => rfl
  | .html _ => .single fun _ => rfl
  | .softBreak => .single fun _ => rfl
  | .hardBreak => .single fun _ => rfl
  | .taskMarker _ => .single fun _ => rfl
  | .emphasis inner => .wrap .emphasis (Inline.carries_eventsAll inner)
  | .strong inner => .wrap .strong (Inline.carries_eventsAll inner)
  | .strikethrough inner => .wrap .strikethrough (Inline.carries_eventsAll inner)
  | .link kind target title inner =>
    .wrap (.link kind target title) (Inline.carries_eventsAll inner)
  | .image target title inner => .wrap (.image target title) (Inline.carries_eventsAll inner)
  | .plainSpan inner => .wrap .plain (Inline.carries_eventsAll inner)

theorem Inline.carries_eventsAll : ∀ is : List Inline,
    Carries (Inline.eventsAll is) (Inline.shownAll is)
  | [] => .nil
  | i :: is => (Inline.carries_events i).append (Inline.carries_eventsAll is)

end

theorem carries_rowEvents {tag : Tag} (hin : ∀ n, imagesAfter n (.enter tag) = n)
    (hout : ∀ n, imagesAfter n (.leave tag) = n) (cells : List (List Inline)) :
    Carries (rowEvents tag cells) (shownRow cells) := by
  refine .within hin hout (.flatMap (fun c => ?_) cells)
  exact .within (fun _ => rfl) (fun _ => rfl) (Inline.carries_eventsAll c)

theorem HtmlPiece.carries_event (p : HtmlPiece) : Carries [p.event] p.text := by
  cases p with
  | indent t => exact .single fun _ => rfl
  | raw t => exact .single fun _ => rfl

mutual

theorem Node.carries_events : ∀ n : Node, Carries n.events n.shown
  | .inline i => Inline.carries_events i
  | .rule => .single fun _ => rfl
  | .verbatim _ => .single fun _ => rfl
  | .within w inner => .wrap w (Node.carries_eventsAll inner)
  | .code kind pieces => by
    have hpieces : Carries (pieces.map Event.text) pieces.flatten := by
      rw [List.map_eq_flatMap, ← List.flatMap_id]
      exact .flatMap (fun t => .single (e := .text t) fun _ => rfl) pieces
    exact .within (fun _ => rfl) (fun _ => rfl) hpieces
  | .html pieces => by
    have hpieces : Carries (pieces.map HtmlPiece.event) (pieces.flatMap HtmlPiece.text) := by
      rw [List.map_eq_flatMap]
      exact .flatMap HtmlPiece.carries_event pieces
    exact .within (fun _ => rfl) (fun _ => rfl) hpieces
  | .table _ head rows => by
    have hhead : Carries (rowEvents .tableHead head) (shownRow head) :=
      carries_rowEvents (fun _ => rfl) (fun _ => rfl) head
    have hrow : ∀ row, Carries (rowEvents .tableRow row) (shownRow row) :=
      carries_rowEvents (fun _ => rfl) fun _ => rfl
    have hrows := Carries.flatMap hrow rows
    exact .within (fun _ => rfl) (fun _ => rfl) (hhead.append hrows)

theorem Node.carries_eventsAll : ∀ ns : List Node,
    Carries (Node.eventsAll ns) (Node.shownAll ns)
  | [] => .nil
  | n :: ns => (Node.carries_events n).append (Node.carries_eventsAll ns)

end

/-- **The stream of trees carries the text of the trees.** -/
theorem shownText_eventsAll (ns : List Node) :
    shownText 0 (Node.eventsAll ns) = Node.shownAll ns := by
  have h := Node.carries_eventsAll ns 0 []
  simpa [shownText] using h

end JiraMarkup.Markdown
