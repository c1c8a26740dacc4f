import SchemaGate.Proofs.Xml.Asking
import SchemaGate.Xml.BuiltIn
import SchemaGate.Xml.Unqualified

/-! Names of elements that are read.

    A name of a document holds no brace, so the local part of a name can be told from a namespace in
    front of it. What the readers of names return has this property (`name?_ensures`), lookup of prefixes
    keeps it (`resolved_ensures`), and so do the steps by which the content of an element grows
    (`contentStep_ensures`); then it holds of every element of a document (`rootElement_ensures`), whatever
    answers it is given. Of other engines it can be required (`Engine.ReadsNames`). -/

namespace SchemaGate.Xml

/-! ### What readers return -/

namespace Scanner

variable {α β : Type}

/-- What a reader returns, if it returns something, has a property. -/
def Ensures (reading : Scanner α) (P : α → Prop) : Prop :=
  ∀ s a s', reading.run s = .ok (a, s') → P a

namespace Ensures

variable {reading : Scanner α} {next : α → Scanner β} {P Q : α → Prop} {R : β → Prop}

theorem pure {a : α} (h : P a) : Ensures (Pure.pure a) P := by
  intro s a' s' hrun
  cases hrun
  exact h

theorem fail : Ensures (Scanner.fail : Scanner α) P := by
  intro s a s' hrun
  cases hrun

theorem bind (h : Ensures reading P) (hnext : ∀ a, P a → Ensures (next a) R) :
    Ensures (reading >>= next) R := by
  intro s b s' hrun
  rw [StateT.run_bind] at hrun
  cases hfirst : reading.run s with
  | error line => simp [hfirst, Bind.bind, Except.bind] at hrun
  | ok r =>
    obtain ⟨a, s₁⟩ := r
    rw [hfirst] at hrun
    exact hnext a (h s a s₁ hfirst) s₁ b s' hrun

/-- Where it does not matter what was returned before. -/
theorem after (hnext : ∀ a, Ensures (next a) R) : Ensures (reading >>= next) R :=
  bind (P := fun _ => True) (fun _ _ _ _ => trivial) fun a _ => hnext a

theorem fail_bind : Ensures (Scanner.fail >>= next) R :=
  bind (P := fun _ => False) fail fun _ => False.elim

theorem need {reading : Scanner (Option α)} (h : Ensures reading fun r => ∀ a ∈ r, P a) :
    Ensures (Scanner.need reading) P := by
  refine h.bind fun r hr => ?_
  cases r with
  | none => exact fail
  | some a => exact pure (hr a rfl)

end Ensures

/-! ### Names -/

/-- Characters up to a brace at the latest hold none. -/
theorem brace_not_mem_spanFrom {stops : List Char → Bool} (hstops : ∀ rest, stops ('\x7b' :: rest) = true)
    {done : List Char} (hdone : '\x7b' ∉ done) (line : Nat) (cs : List Char) :
    '\x7b' ∉ (Cursor.spanFrom stops done line cs).1 := by
  induction cs generalizing done line with
  | nil => exact hdone
  | cons c rest ih =>
    rw [Cursor.spanFrom]
    split
    · exact hdone
    · next hgoes =>
      refine ih (fun hmem => ?_) _
      rcases List.mem_cons.1 hmem with heq | hmem
      · rw [Cursor.readAs] at heq
        split at heq
        · cases heq
        · subst heq
          simp [hstops] at hgoes
      · exact hdone hmem

theorem spanClass_ensures {p : Char → Bool} (hp : p '\x7b' = false) :
    Ensures (spanClass p) fun cs => '\x7b' ∉ cs := by
  rintro s cs s' hrun
  cases hrun
  simpa [Cursor.span] using brace_not_mem_spanFrom (fun _ => by simp [hp]) (List.not_mem_nil) _ _

theorem nameOf?_ensures {first other : Char → Bool} (h : other '\x7b' = false) :
    Ensures (nameOf? first other) fun r => ∀ cs ∈ r, '\x7b' ∉ cs := by
  refine .after fun cs => ?_
  split
  · split
    · refine (spanClass_ensures h).bind fun cs hcs => ?_
      dsimp only
      split
      · exact .after fun _ => .pure (by simpa using hcs)
      · exact .pure (by simpa using hcs)
    · exact .pure nofun
  · exact .pure nofun

theorem name?_ensures : Ensures name? fun r => ∀ cs ∈ r, '\x7b' ∉ cs := nameOf?_ensures rfl

theorem plainName?_ensures : Ensures plainName? fun r => ∀ cs ∈ r, '\x7b' ∉ cs := nameOf?_ensures rfl

theorem nameToken?_ensures : Ensures nameToken? fun r => ∀ cs ∈ r, '\x7b' ∉ cs := nameOf?_ensures rfl

end Scanner

/-! ### Names with prefixes -/

/-- A text without an opening brace. -/
def Unbraced (t : Text) : Prop := .char '\x7b' ∉ t

theorem unbraced_ofChars {cs : List Char} (h : '\x7b' ∉ cs) : Unbraced (Text.ofChars cs) := by
  intro hmem
  obtain ⟨c, hc, heq⟩ := List.mem_map.1 hmem
  cases heq
  exact h hc

theorem Unbraced.append {a b : Text} (ha : Unbraced a) (hb : Unbraced b) : Unbraced (a ++ b) := by
  intro hmem
  exact (List.mem_append.1 hmem).elim ha hb

/-- A name without an opening brace in it. -/
structure WrittenName.Plain (n : WrittenName) : Prop where
  front : ∀ p ∈ n.front, Unbraced p
  part : Unbraced n.part

theorem WrittenName.Plain.text {n : WrittenName} (h : n.Plain) : Unbraced n.text := by
  obtain ⟨front, part⟩ := n
  cases front with
  | none => exact h.part
  | some p => exact ((h.front p rfl).append (by simp [Unbraced]; decide)).append h.part

namespace WrittenName

theorem plain_alone {cs : List Char} (h : '\x7b' ∉ cs) : (⟨none, Text.ofChars cs⟩ : WrittenName).Plain :=
  ⟨nofun, unbraced_ofChars h⟩

theorem plain_prefixed {front cs : List Char} (hfront : '\x7b' ∉ front) (h : '\x7b' ∉ cs) :
    (⟨some (Text.ofChars front), Text.ofChars cs⟩ : WrittenName).Plain := by
  refine ⟨fun p hp => ?_, unbraced_ofChars h⟩
  cases hp
  exact unbraced_ofChars hfront

/-- What follows a colon, if anything does, may have no brace in it either. -/
theorem brace_not_mem_colon {cs : List Char} (hcs : '\x7b' ∉ cs) {tail : Option (List Char)}
    (htail : ∀ t ∈ tail, '\x7b' ∉ t) : '\x7b' ∉ cs ++ ':' :: tail.getD [] := by
  cases tail with
  | none => simpa using hcs
  | some t => simpa using ⟨hcs, htail t rfl⟩

end WrittenName

namespace Scanner

open WrittenName (plain_alone plain_prefixed brace_not_mem_colon)

theorem writtenName?_ensures : Ensures writtenName? fun r => ∀ n ∈ r, n.Plain := by
  refine plainName?_ensures.bind fun first hfirst => ?_
  cases first with
  | none =>
    refine .after fun isColon => ?_
    split
    · refine name?_ensures.bind fun name hname => ?_
      cases name with
      | none => exact .pure nofun
      | some cs => exact .after fun _ => .pure (by simpa using plain_alone (hname cs rfl))
    · exact .pure nofun
  | some first =>
    have hfirst : '\x7b' ∉ first := hfirst first rfl
    refine .after fun isColon => ?_
    split
    · refine plainName?_ensures.bind fun second hsecond => ?_
      cases second with
      | none =>
        refine .after fun _ => nameToken?_ensures.bind fun tail htail => .pure ?_
        simpa using plain_alone (brace_not_mem_colon hfirst htail)
      | some second =>
        have hsecond : '\x7b' ∉ second := hsecond second rfl
        refine .after fun isColon => ?_
        split
        · refine .after fun _ => .after fun _ => name?_ensures.bind fun tail htail => .pure ?_
          simpa using plain_prefixed hfirst (brace_not_mem_colon hsecond htail)
        · exact .pure (by simpa using plain_prefixed hfirst hsecond)
    · exact .pure (by simpa using plain_alone hfirst)

/-- A prefix is looked up, or becomes part of the name. -/
theorem resolved_ensures (scope : Scope) (isElement : Bool) {n : WrittenName} (h : n.Plain) :
    Ensures (resolved scope isElement n) fun name => Unbraced name.part := by
  rw [resolved]
  split
  · exact .pure h.part
  · split
    · exact .pure h.part
    · exact .after fun _ => .pure h.text

theorem startTag_ensures (p : Prolog) (scope : Scope) :
    Ensures (startTag p scope) fun tag => Unbraced tag.2.1.name.part := by
  refine (Ensures.need writtenName?_ensures).bind fun written hwritten => ?_
  refine .after fun _ => .after fun _ => .after fun done => .after fun attributes => ?_
  refine (resolved_ensures _ true hwritten).bind fun name hname => ?_
  exact .after fun _ => .after fun _ => .pure hname

end Scanner

/-! ### Elements -/

namespace Node

mutual

/-- The heads of the elements of a tree, in the order of the document. -/
def heads : Node → List Head
  | .element head children => head :: headsOf children
  | _ => []

/-- The heads of the elements of trees, in their order. -/
def headsOf : List Node → List Head
  | [] => []
  | n :: rest => n.heads ++ headsOf rest

end

theorem mem_headsOf {h : Head} {ns : List Node} : h ∈ headsOf ns ↔ ∃ n ∈ ns, h ∈ n.heads := by
  induction ns with
  | nil => simp [headsOf]
  | cons n ns ih => simp [headsOf, ih]

/-- The local parts of the elements are without braces. -/
def Plain (n : Node) : Prop := ∀ h ∈ n.heads, Unbraced h.name.part

theorem Plain.element {head : Head} {children : List Node} (hhead : Unbraced head.name.part)
    (hchildren : ∀ n ∈ children, n.Plain) : (Node.element head children).Plain := by
  intro h hh
  rw [heads] at hh
  rcases List.mem_cons.1 hh with rfl | hh
  · exact hhead
  · obtain ⟨n, hn, hh⟩ := mem_headsOf.1 hh
    exact hchildren n hn h hh

end Node

namespace Growth

/-- All elements that have been read so far, whether they are closed or not, have names without
braces. -/
structure Plain (g : Growth) : Prop where
  opened : ∀ e ∈ g.opened, Unbraced e.head.name.part ∧ ∀ n ∈ e.children, n.Plain
  closed : ∀ n ∈ g.closed, n.Plain

theorem plain_addChild {child : Node} {children : List Node} (hchild : child.Plain)
    (hchildren : ∀ n ∈ children, n.Plain) : ∀ n ∈ addChild child children, n.Plain := by
  intro n hn
  unfold addChild at hn
  split at hn
  · rcases List.mem_cons.1 hn with rfl | hn
    · exact nofun
    · exact hchildren n (List.mem_cons_of_mem _ hn)
  · rcases List.mem_cons.1 hn with rfl | hn
    · exact hchild
    · exact hchildren n hn

theorem Plain.add {g : Growth} (h : g.Plain) {n : Node} (hn : n.Plain) : (g.add n).Plain := by
  obtain ⟨opened, closed⟩ := g
  cases opened with
  | nil => exact ⟨h.opened, by rintro _ ⟨⟩; exact hn⟩
  | cons e outer =>
    obtain ⟨he, houter⟩ := List.forall_mem_cons.1 h.opened
    exact ⟨List.forall_mem_cons.2 ⟨⟨he.1, plain_addChild hn he.2⟩, houter⟩, h.closed⟩

end Growth

/-- Where a step goes on, all names are without braces. -/
def Step.Plain : Step → Prop
  | .went g => g.Plain
  | _ => True

namespace Scanner

variable {g : Growth}

theorem openElement_ensures (p : Prolog) (h : g.Plain) : Ensures (openElement p g) Growth.Plain := by
  rw [openElement]
  dsimp only
  split
  · exact .fail_bind
  · refine (startTag_ensures p g.scope).bind fun (written, head, scope) hhead => .after fun _ => ?_
    dsimp only at hhead ⊢
    split
    · exact .pure (h.add (.element hhead nofun))
    · exact .after fun _ => .pure ⟨List.forall_mem_cons.2 ⟨⟨hhead, nofun⟩, h.opened⟩, h.closed⟩

theorem closeElement_ensures (h : g.Plain) : Ensures (closeElement g) Growth.Plain := by
  rw [closeElement]
  split
  · exact .fail
  · next e outer hopened =>
    obtain ⟨he, houter⟩ := List.forall_mem_cons.1 (hopened ▸ h.opened)
    have hrest : (⟨outer, g.closed⟩ : Growth).Plain := ⟨houter, h.closed⟩
    refine .after fun name => .after fun _ => .after fun _ => ?_
    dsimp only
    split
    · exact .fail_bind
    · exact .pure (hrest.add (.element he.1 fun n hn => he.2 n (List.mem_reverse.1 hn)))

theorem textRun_ensures : Ensures textRun Node.Plain := by
  refine .after fun cs => ?_
  dsimp only
  split
  · exact .fail_bind
  · exact .pure nofun

theorem contentStep_ensures (p : Prolog) (floor : Nat) (h : g.Plain) :
    Ensures (contentStep p floor g) Step.Plain := by
  rw [contentStep]
  refine .after fun rest => ?_
  split
  · exact .pure trivial
  refine .after fun isEnd => ?_
  split
  · -- an end tag
    dsimp only
    split
    · exact .fail_bind
    · exact (closeElement_ensures h).bind fun g hg => .pure hg
  refine .after fun isSection => ?_
  split
  · exact .after fun cs => .pure (h.add nofun)
  refine .after fun isComment => ?_
  split
  · exact .after fun text => .pure (h.add nofun)
  refine .after fun isInstruction => ?_
  split
  · exact .after fun _ => .pure (h.add nofun)
  refine .after fun isStart => ?_
  split
  · exact (openElement_ensures p h).bind fun g hg => .pure hg
  refine .after fun isCharacter => ?_
  split
  · exact .after fun c => .pure (h.add nofun)
  refine .after fun isEntity => ?_
  split
  · -- a reference to an entity
    refine .after fun name => ?_
    split
    · exact .pure (h.add nofun)
    · refine .after fun text => ?_
      split
      · exact .pure trivial
      · exact .pure h
  · exact textRun_ensures.bind fun n hn => .pure (h.add hn)

theorem contentAround_ensures (p : Prolog) {inner : Option ContentReader}
    (hinner : ∀ read ∈ inner, ∀ entities floor fuel g, g.Plain →
      Ensures (read entities floor fuel g) Growth.Plain)
    (entities : List (List Char)) (floor fuel : Nat) (h : g.Plain) :
    Ensures (contentAround p inner entities floor fuel g) Growth.Plain := by
  induction fuel generalizing g with
  | zero => exact .fail
  | succ fuel ih =>
    refine (contentStep_ensures p floor h).bind fun step hstep => ?_
    cases step with
    | ended => exact .pure h
    | went g => exact ih hstep
    | reached name replacement =>
      cases inner with
      | none => exact .fail
      | some read =>
        dsimp only
        split
        · exact .fail_bind
        · refine .after fun here => .after fun _ => ?_
          refine (hinner read rfl _ _ _ g h).bind fun g' hg' => ?_
          split
          · exact .fail_bind
          · exact .after fun _ => ih hg'

/-- Content is read with plain names only, in entities as well. -/
theorem content_ensures (p : Prolog) (depth : Nat) (entities : List (List Char)) (floor fuel : Nat)
    (h : g.Plain) : Ensures (content p depth entities floor fuel g) Growth.Plain := by
  induction depth generalizing entities floor fuel g with
  | zero => exact contentAround_ensures p (by simp) entities floor fuel h
  | succ depth ih =>
    refine contentAround_ensures p ?_ entities floor fuel h
    rintro _ ⟨⟩ entities floor fuel g hg
    exact ih entities floor fuel hg

theorem rootElement_ensures (p : Prolog) : Ensures (rootElement p) Node.Plain := by
  have hstart : (⟨[], none⟩ : Growth).Plain := ⟨nofun, nofun⟩
  refine .after fun _ => (openElement_ensures p hstart).bind fun g hg => .after fun rest => ?_
  refine (content_ensures p _ [] 0 _ hg).bind fun g hg => ?_
  split
  · next n hn => exact .pure (hg.closed n hn)
  · exact .fail

end Scanner

/-! ### Documents -/

variable {α β : Type}

namespace AskingScanner

/-- What a reader that may ask returns, if it returns something, has a property. -/
def Ensures (reading : AskingScanner Asking α) (P : α → Prop) : Prop :=
  ∀ s a s', (reading.run s).run.Yields (.ok (a, s')) → P a

namespace Ensures

variable {P : α → Prop}

theorem plain {reading : Scanner α} (h : Scanner.Ensures reading P) :
    Ensures (AskingScanner.plain reading : AskingScanner Asking α) P := by
  intro s a s' hyields
  exact h s a s' (Asking.yields_pure_iff.1 hyields)

theorem after {reading : AskingScanner Asking β} {next : β → AskingScanner Asking α}
    (hnext : ∀ b, Ensures (next b) P) : Ensures (reading >>= next) P := by
  intro s a s' hyields
  obtain ⟨r, -, hyields⟩ := Asking.yields_bind_iff.1 hyields
  match r with
  | .error line => cases hyields
  | .ok (b, s₁) => exact hnext b s₁ a s' hyields

end Ensures

end AskingScanner

namespace Document

theorem reading_ensures (fetch : Fetch Asking) (a : Approach) (bytes : Bytes) :
    AskingScanner.Ensures (reading fetch a bytes) fun d => d.root.Plain := by
  have hend : ∀ p, AskingScanner.Ensures (AskingScanner.plain do
      miscellany
      let root ← Scanner.rootElement p
      miscellany
      if !(← Scanner.rest).isEmpty then Scanner.fail
      return ⟨p, root⟩) fun d : Document => d.root.Plain := by
    refine fun p => .plain (.after fun _ => (Scanner.rootElement_ensures p).bind fun root hroot => ?_)
    refine .after fun _ => .after fun rest => ?_
    dsimp only
    split
    · exact .fail_bind
    · exact .pure hroot
  refine .after fun d => .after fun _ => .after fun hasDoctype => ?_
  dsimp only
  split
  · exact .after hend
  · exact .after hend

/-- The elements of a document that was read have local names without braces. -/
theorem plain_of_read {fetch : Fetch Asking} {a : Approach} {bytes : Bytes} {d : Document}
    (h : (read fetch a bytes).Yields (.ok d)) : d.root.Plain := by
  obtain ⟨outcome, hreading, hrest⟩ := Asking.yields_bind_iff.1 h
  match outcome with
  | .error line => cases hrest
  | .ok (d', s) =>
    have hplain := reading_ensures fetch a bytes _ _ _ hreading
    dsimp only at hrest
    split at hrest <;> cases hrest
    exact hplain

end Document

/-! ### Engines -/

/-- No name of an element that the engine reads holds a brace. -/
def Engine.ReadsNames (e : Engine) : Prop :=
  ∀ a bytes d, (e.parse a bytes).Yields (.ok d) → d.root.Plain

theorem Engine.readsNames_builtIn : builtIn.ReadsNames := by
  intro a bytes d h
  obtain ⟨outcome, hread, hresult⟩ := Asking.yields_bind_iff.1 h
  cases outcome with
  | error line => cases hresult
  | ok d' =>
    cases hresult
    exact Document.plain_of_read hread

end SchemaGate.Xml
