import Pnio.Lib.Text

/-!
Documents in XML, as far as tags and attributes go: a writer that puts pieces one after the other,
and a reader that goes over the bytes once and collects the elements.
-/

namespace Pnio.Xml

def quote : UInt8 := 0x22
def slash : UInt8 := 0x2f
def lt : UInt8 := 0x3c
def equals : UInt8 := 0x3d
def gt : UInt8 := 0x3e
def ask : UInt8 := 0x3f
def space : UInt8 := 0x20

/-- An element as it is read: its name and its attributes in order. -/
structure Element where
  name : Bytes
  attrs : List (Bytes × Bytes)
deriving DecidableEq

/-- The value of an attribute. -/
def Element.get (e : Element) (name : String) : Option Bytes := e.attrs.lookup (utf8 name)

/-! ### Writing -/

/-- A piece of a document. The values of the attributes are written as they are. -/
inductive Piece where
  | opening (name : String) (attrs : List (String × Bytes))
  | empty (name : String) (attrs : List (String × Bytes))
  | closing (name : String)
  | instruction (content : String)
  | text (content : String)
deriving DecidableEq

def writeAttr (a : String × Bytes) : Bytes :=
  space :: utf8 a.1 ++ equals :: quote :: a.2 ++ [quote]

namespace Piece

def write : Piece → Bytes
  | opening name attrs => lt :: utf8 name ++ attrs.flatMap writeAttr ++ [gt]
  | empty name attrs => lt :: utf8 name ++ attrs.flatMap writeAttr ++ [slash, gt]
  | closing name => lt :: slash :: utf8 name ++ [gt]
  | instruction content => lt :: ask :: utf8 content ++ [ask, gt]
  | text content => utf8 content

def elements : Piece → List Element
  | opening name attrs | empty name attrs => [⟨utf8 name, attrs.map fun a => (utf8 a.1, a.2)⟩]
  | closing _ | instruction _ | text _ => []

end Piece

/-- A letter, a digit, an underscore or a colon. -/
def nameByte (b : UInt8) : Bool :=
  let n := b.toNat
  Nat.ble 48 n && Nat.ble n 58 || Nat.ble 65 n && Nat.ble n 90 || Nat.beq n 95 ||
    Nat.ble 97 n && Nat.ble n 122

/-- The name of an element or an attribute. -/
def goodName (s : String) : Bool := !(utf8 s).isEmpty && (utf8 s).all nameByte

/-- A text without the byte `b`. -/
def free (b : UInt8) (s : Bytes) : Bool := s.all fun x => !Nat.beq x.toNat b.toNat

lemma free_iff {b : UInt8} {s : Bytes} : free b s = true ↔ b ∉ s := by
  simp only [free, List.all_eq_true, Bool.not_eq_true', ← Bool.not_eq_true, Nat.beq_eq,
    UInt8.toNat_inj]
  exact ⟨fun h hb => h b hb rfl, fun h x hx hxb => h (hxb ▸ hx)⟩

/-- A piece that is well formed: no value ends before its quote. -/
def Piece.ok : Piece → Bool
  | opening name attrs | empty name attrs =>
    goodName name && attrs.all fun a => goodName a.1 && free quote a.2
  | closing content | instruction content => free gt (utf8 content)
  | text content => free lt (utf8 content)

/-! ### Reading -/

/-- Where the reader is. -/
inductive Place where
  | text
  | name (n : Bytes)
  /-- In a closing tag or an instruction. -/
  | skip
  | between (e : Element)
  | attr (e : Element) (a : Bytes)
  | equals (e : Element) (a : Bytes)
  | value (e : Element) (a v : Bytes)

structure Reader where
  place : Place
  done : List Element

namespace Reader

def step (r : Reader) (b : UInt8) : Reader :=
  match r.place with
  | .text => if b = lt then ⟨.name [], r.done⟩ else r
  | .name n =>
    if n = [] ∧ (b = slash ∨ b = ask) then ⟨.skip, r.done⟩
    else if b = gt then ⟨.text, r.done ++ [⟨n, []⟩]⟩
    else if b = space ∨ b = slash then ⟨.between ⟨n, []⟩, r.done⟩
    else ⟨.name (n ++ [b]), r.done⟩
  | .skip => if b = gt then ⟨.text, r.done⟩ else r
  | .between e =>
    if b = gt then ⟨.text, r.done ++ [e]⟩
    else if b = space ∨ b = slash then r
    else ⟨.attr e [b], r.done⟩
  | .attr e a => if b = Xml.equals then ⟨.equals e a, r.done⟩ else ⟨.attr e (a ++ [b]), r.done⟩
  | .equals e a => if b = quote then ⟨.value e a [], r.done⟩ else r
  | .value e a v =>
    if b = quote then ⟨.between { e with attrs := e.attrs ++ [(a, v)] }, r.done⟩
    else ⟨.value e a (v ++ [b]), r.done⟩

def run (r : Reader) (bytes : Bytes) : Reader := bytes.foldl step r

end Reader

/-- The elements of a document. -/
def read (bytes : Bytes) : List Element := (Reader.run ⟨.text, []⟩ bytes).done

/-! ### What was written is read -/

namespace Reader

variable {d : List Element} {e : Element}

lemma run_append (r : Reader) (s t : Bytes) : r.run (s ++ t) = (r.run s).run t :=
  List.foldl_append

lemma run_cons (r : Reader) (b : UInt8) (s : Bytes) : r.run (b :: s) = (r.step b).run s := rfl

/-- Bytes that change nothing. -/
lemma run_still {r : Reader} {s : Bytes} (h : ∀ b ∈ s, r.step b = r) : r.run s = r := by
  induction s with
  | nil => rfl
  | cons b s ih =>
    rw [run_cons, h b List.mem_cons_self]
    exact ih fun b' hb => h b' (List.mem_cons_of_mem b hb)

/-- Bytes that a place collects one by one. -/
lemma run_collect {P : UInt8 → Prop} (place : Bytes → Place)
    (hstep : ∀ n b, P b → step ⟨place n, d⟩ b = ⟨place (n ++ [b]), d⟩) (n : Bytes) {s : Bytes}
    (h : ∀ b ∈ s, P b) : run ⟨place n, d⟩ s = ⟨place (n ++ s), d⟩ := by
  induction s generalizing n with
  | nil => simp [run]
  | cons b s ih =>
    rw [run_cons, hstep n b (h b List.mem_cons_self), ih _ fun b' hb => h b' (.tail b hb)]
    simp

lemma ne_of_free {b x : UInt8} {s : Bytes} (h : free b s = true) (hx : x ∈ s) : x ≠ b :=
  fun hxb => free_iff.1 h (hxb ▸ hx)

/-- A byte that can stand in a name. -/
def Plain (b : UInt8) : Prop := b ≠ slash ∧ b ≠ Xml.equals ∧ b ≠ gt ∧ b ≠ ask ∧ b ≠ space

lemma plain_of_nameByte {b : UInt8} (h : nameByte b = true) : Plain b := by
  simp only [nameByte, Bool.or_eq_true, Bool.and_eq_true, Nat.ble_eq, Nat.beq_eq] at h
  have hne : ∀ x : UInt8, b.toNat ≠ x.toNat → b ≠ x := by
    rintro x hx rfl
    exact hx rfl
  refine ⟨hne _ ?_, hne _ ?_, hne _ ?_, hne _ ?_, hne _ ?_⟩
  all_goals simp only [slash, Xml.equals, gt, ask, space, UInt8.reduceToNat]; omega

lemma goodName_spec {s : String} (h : goodName s = true) :
    utf8 s ≠ [] ∧ ∀ b ∈ utf8 s, Plain b := by
  simp only [goodName, Bool.and_eq_true, Bool.not_eq_true', List.isEmpty_eq_false_iff,
    List.all_eq_true] at h
  exact ⟨h.1, fun b hb => plain_of_nameByte (h.2 b hb)⟩

lemma run_name {s : String} (h : goodName s = true) :
    run ⟨.text, d⟩ (lt :: utf8 s) = ⟨.name (utf8 s), d⟩ := by
  refine run_collect .name (P := Plain) ?_ [] (goodName_spec h).2
  rintro n b ⟨h1, -, h3, h4, h5⟩
  simp [step, h1, h3, h4, h5]

/-- One attribute, after the blank before it. -/
lemma run_attr {a : String} {v : Bytes} (ha : goodName a = true) (hv : free quote v = true) :
    run ⟨.between e, d⟩ (utf8 a ++ Xml.equals :: quote :: v ++ [quote]) =
      ⟨.between { e with attrs := e.attrs ++ [(utf8 a, v)] }, d⟩ := by
  obtain ⟨hne, hbytes⟩ := goodName_spec ha
  obtain ⟨b, s, hs⟩ := List.exists_cons_of_ne_nil hne
  rw [hs] at hbytes ⊢
  obtain ⟨hb1, -, hb3, -, hb5⟩ := hbytes b List.mem_cons_self
  have hfirst : step ⟨.between e, d⟩ b = ⟨.attr e [b], d⟩ := by
    simp [step, hb1, hb3, hb5]
  have hname : run ⟨.attr e [b], d⟩ s = ⟨.attr e (b :: s), d⟩ := by
    refine run_collect (.attr e) (P := fun b => b ≠ Xml.equals) ?_ [b]
      fun b' hb' => (hbytes b' (.tail b hb')).2.1
    intro n b' hb'
    simp [step, hb']
  have hvalue : run ⟨.value e (b :: s) [], d⟩ v = ⟨.value e (b :: s) v, d⟩ := by
    refine run_collect (.value e (b :: s)) (P := fun b => b ≠ quote) ?_ []
      fun b' hb' => ne_of_free hv hb'
    intro n b' hb'
    simp [step, hb']
  have hquote : step (step ⟨.attr e (b :: s), d⟩ Xml.equals) quote =
      ⟨.value e (b :: s) [], d⟩ := rfl
  rw [List.append_assoc, List.cons_append, run_cons, hfirst, run_append, hname]
  rw [List.cons_append, List.cons_append, run_cons, run_cons, run_append, hquote, hvalue]
  rfl

lemma run_attrs {attrs : List (String × Bytes)}
    (h : ∀ a ∈ attrs, goodName a.1 = true ∧ free quote a.2 = true) :
    run ⟨.between e, d⟩ (attrs.flatMap writeAttr) =
      ⟨.between { e with attrs := e.attrs ++ attrs.map fun a => (utf8 a.1, a.2) }, d⟩ := by
  induction attrs generalizing e with
  | nil => simp [run]
  | cons a attrs ih =>
    obtain ⟨ha, hv⟩ := h a List.mem_cons_self
    have hspace : step ⟨.between e, d⟩ space = ⟨.between e, d⟩ := rfl
    rw [List.flatMap_cons, run_append, writeAttr, List.cons_append, List.cons_append, run_cons,
      hspace, run_attr ha hv, ih fun a' ha' => h a' (.tail a ha')]
    simp

/-- A whole tag with an element. -/
lemma run_tag {name : String} {attrs : List (String × Bytes)} (hn : goodName name = true)
    (h : ∀ a ∈ attrs, goodName a.1 = true ∧ free quote a.2 = true) {close : Bytes}
    (hclose : close = [gt] ∨ close = [slash, gt]) :
    run ⟨.text, d⟩ (lt :: utf8 name ++ attrs.flatMap writeAttr ++ close) =
      ⟨.text, d ++ [⟨utf8 name, attrs.map fun a => (utf8 a.1, a.2)⟩]⟩ := by
  rw [run_append, run_append, run_name hn]
  cases attrs with
  | nil =>
    have hne := (goodName_spec hn).1
    rcases hclose with rfl | rfl
    all_goals simp [run, step, hne, gt, slash, ask, space]
  | cons a attrs =>
    -- the first blank ends the name
    have hspace : step ⟨.name (utf8 name), d⟩ space = ⟨.between ⟨utf8 name, []⟩, d⟩ := by
      simp [step, gt, slash, ask, space]
    obtain ⟨ha, hv⟩ := h a List.mem_cons_self
    rw [List.flatMap_cons, run_append, writeAttr, List.cons_append, List.cons_append, run_cons,
      hspace, run_attr ha hv, run_attrs fun a' ha' => h a' (.tail a ha')]
    rcases hclose with rfl | rfl
    all_goals simp [run, step, gt, slash, space]

/-- A tag without element is skipped. -/
lemma run_skip {b : UInt8} {s : Bytes} (hb : b = slash ∨ b = ask) (hs : ∀ x ∈ s, x ≠ gt) :
    run ⟨.text, d⟩ (lt :: b :: s ++ [gt]) = ⟨.text, d⟩ := by
  have hskip : step (step ⟨.text, d⟩ lt) b = ⟨.skip, d⟩ := by
    rcases hb with rfl | rfl <;> rfl
  have hstill : run ⟨.skip, d⟩ s = ⟨.skip, d⟩ := by
    refine run_still fun x hx => ?_
    simp [step, hs x hx]
  have htag : run ⟨.text, d⟩ (lt :: b :: s) = ⟨.skip, d⟩ := by
    rw [run_cons, run_cons, hskip, hstill]
  rw [run_append, htag]
  rfl

lemma run_write {p : Piece} (h : p.ok = true) :
    run ⟨.text, d⟩ p.write = ⟨.text, d ++ p.elements⟩ := by
  cases p with
  | opening name attrs =>
    simp only [Piece.ok, Bool.and_eq_true, List.all_eq_true] at h
    exact run_tag h.1 h.2 (.inl rfl)
  | empty name attrs =>
    simp only [Piece.ok, Bool.and_eq_true, List.all_eq_true] at h
    exact run_tag h.1 h.2 (.inr rfl)
  | closing name =>
    rw [Piece.elements, List.append_nil]
    exact run_skip (.inl rfl) fun x hx => ne_of_free h hx
  | instruction content =>
    have hskip := run_skip (d := d) (s := utf8 content ++ [ask]) (.inr rfl) fun x hx => by
      rcases List.mem_append.1 hx with hx | hx
      · exact ne_of_free h hx
      · rw [List.mem_singleton.1 hx]
        decide
    rw [Piece.elements, List.append_nil]
    simpa [Piece.write] using hskip
  | text content =>
    rw [Piece.elements, List.append_nil]
    refine run_still fun x hx => ?_
    have hne : x ≠ lt := ne_of_free h hx
    simp [step, hne]

end Reader

/-- **What is written is read**: the elements of a document of well-formed pieces are those of its
pieces. -/
theorem read_write {ps : List Piece} (h : ∀ p ∈ ps, p.ok = true) :
    read (ps.flatMap Piece.write) = ps.flatMap Piece.elements := by
  have hrun : ∀ d, Reader.run ⟨.text, d⟩ (ps.flatMap Piece.write) =
      ⟨.text, d ++ ps.flatMap Piece.elements⟩ := by
    induction ps with
    | nil => simp [Reader.run]
    | cons p ps ih =>
      intro d
      rw [List.flatMap_cons, Reader.run_append, Reader.run_write (h p List.mem_cons_self),
        ih fun q hq => h q (.tail p hq), List.flatMap_cons, List.append_assoc]
  rw [read, hrun]
  rfl

end Pnio.Xml
