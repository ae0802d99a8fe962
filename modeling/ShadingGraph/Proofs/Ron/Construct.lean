import ShadingGraph.Proofs.OrderedMap
import ShadingGraph.Proofs.Ron.Layout

/-!
# Constructs read back

A text reads as a value if, wherever it stands in a document without abbreviations, with enough
levels of nesting left and the end of a value behind it, the reader takes exactly the text away and
gives the value. For each construct, the texts of the parts read as the parts, and so the text that
is laid out around them reads as the whole.

## Main definitions

- `Ron.Reads` — a text reads as a value

## Main results

- `Ron.Reads.enclosed`, `Ron.Reads.structLayout`, `Ron.Reads.document` — containers, structs with
  named fields and whole documents, in any layout
- `Ron.Reads.list`, `Ron.Reads.tuple`, `Ron.Reads.orderedMap` — containers as they are written
- `Ron.Reads.option`, `Ron.Reads.variant` — optional values and variants
- `Ron.Reads.struct`, `Ron.Reads.parse` — structs and whole documents as they are written
-/

namespace ShadingGraph

namespace Ron

/-- A text that, with as many levels left as the number says, is read as a value. -/
structure Reads {α : Type} (need : Nat) (read : Reader α) (text : List Char) (a : α) : Prop where
  opens : Opens text
  reads : ∀ x : Scope, x.extensions = .empty → need ≤ x.levels → ∀ rest, Closes rest →
    read x (text ++ rest) = some (a, rest)

variable {α β σ : Type}

/-! ## Scopes -/

theorem enter_of_lt {x : Scope} (h : 0 < x.levels) :
    x.enter = some { x with levels := x.levels - 1 } := by
  obtain ⟨n, hn⟩ := Nat.exists_eq_add_one.2 h
  simp [Scope.enter, hn]

theorem nested_of_lt (read : Reader α) {x : Scope} (h : 0 < x.levels) (s : List Char) :
    nested read x s = read { x with levels := x.levels - 1 } s := by
  simp [nested, enter_of_lt h]

namespace Reads

variable {need : Nat} {read : Reader α} {text : List Char} {a : α}

theorem mono {need' : Nat} (h : Reads need read text a) (hle : need ≤ need') :
    Reads need' read text a :=
  ⟨h.opens, fun x hx hlevels => h.reads x hx (hle.trans hlevels)⟩

theorem nested (h : Reads need read text a) : Reads (need + 1) (Ron.nested read) text a where
  opens := h.opens
  reads := by
    intro x hx hlevels rest hrest
    rw [nested_of_lt read (by omega)]
    exact h.reads { x with levels := x.levels - 1 } hx (Nat.le_sub_one_of_lt hlevels) rest hrest

theorem map (f : α → β) (h : Reads need read text a) :
    Reads need (mapReader f read) text (f a) where
  opens := h.opens
  reads := by
    intro x hx hlevels rest hrest
    rw [mapReader, h.reads x hx hlevels rest hrest, Option.map_some]

end Reads

/-! ## Literals -/

theorem opens_signText (negative : Bool) {s : List Char} (h : Opens s) :
    Opens (signText negative ++ s) := by
  cases negative with
  | true => exact opens_cons (by decide)
  | false => exact h

theorem opens_digits {ds : List Char} (hne : ds ≠ []) (hdigits : ∀ c ∈ ds, c.isDigit = true) :
    Opens ds := by
  cases ds with
  | nil => exact absurd rfl hne
  | cons c ds =>
    have hc := hdigits c List.mem_cons_self
    exact opens_cons (isOpening_of_isAlphanum (by simp [Char.isAlphanum, hc]))

theorem reads_stringLayout {s : String} {text : List Char} (h : StringLayout s text) :
    Reads 0 (anywhere readString) text s := by
  obtain ⟨inside, hinside, rfl⟩ := h
  constructor
  · exact opens_cons (by decide)
  · intro x _ _ rest _
    have hread := hinside.readString rest
    simpa [anywhere] using hread

theorem reads_string (s : String) (depth : Nat) :
    Reads 0 (anywhere readString) (writeString depth s) s :=
  reads_stringLayout (stringLayout_writeString s depth)

theorem reads_naturalLayout (type : IntegerType) {n : Nat} {text : List Char}
    (h : NaturalLayout n text) (hrange : type.least ≤ n ∧ (n : Int) ≤ type.greatest) :
    Reads 0 (anywhere (readInteger type)) text n := by
  obtain ⟨hne, hdigits, rfl⟩ := h
  constructor
  · exact opens_digits hne hdigits
  · intro x _ _ rest hrest
    exact readInteger_digits type false hne hdigits rfl hrange hrest

theorem reads_bool (b : Bool) (depth : Nat) :
    Reads 0 (anywhere readBool) (writeBool depth b) b where
  opens := by cases b <;> exact opens_cons (by decide)
  reads := by
    intro x _ _ rest hrest
    cases b with
    | true =>
      rw [anywhere, writeBool, if_pos rfl, readBool, skipWord_append hrest.continuesIdentifier]
      rfl
    | false =>
      have htrue : skipWord ['t', 'r', 'u', 'e'] (['f', 'a', 'l', 's', 'e'] ++ rest) = none := rfl
      rw [anywhere, writeBool, if_neg Bool.false_ne_true, readBool, htrue,
        skipWord_append hrest.continuesIdentifier]
      rfl

theorem reads_integer (type : IntegerType) {n : Int}
    (hrange : type.least ≤ n ∧ n ≤ type.greatest) (depth : Nat) :
    Reads 0 (anywhere (readInteger type)) (writeInteger depth n) n where
  opens := by
    rw [writeInteger, integerText_eq]
    exact opens_signText _ (opens_digits (digitsOf_ne_nil _) fun _ => isDigit_of_mem_digitsOf)
  reads := fun _ _ _ _ hrest => readInteger_integerText type hrange hrest

theorem reads_float (type : FloatType) {x : Binary type.format} (hx : x.isNaN = false)
    (depth : Nat) : Reads 0 (anywhere (readFloat type)) (writeFloat depth x) x where
  opens := by
    rw [writeFloat]
    cases hinfinite : x.isInfinite with
    | true =>
      rw [write_infinite hinfinite]
      exact opens_signText _ (opens_cons (by decide))
    | false =>
      obtain ⟨whole, fraction, htext, hwhole, hdigits, -⟩ :=
        (Decimal.shortest .up x).exists_positional
      rw [write_finite hx hinfinite, htext]
      exact opens_signText _
        ((opens_digits hwhole (List.forall_mem_append.1 hdigits).1).append _)
  reads := fun _ _ _ _ hrest => readFloat_write type hx hrest

/-! ## Containers -/

section Containers

variable {first last : Char} {need depth : Nat} {item : Reader α} {write : Writer β} {bs : List β}
  {as : List α}

/-- Skipping the gap in front of items beforehand makes no difference. -/
theorem readItems_of_skipGap {read : List Char → Option (α × List Char)} {s rest : List Char}
    (h : skipGap s = some rest) (steps : Nat) (mayFollow : Bool) :
    readItems last read steps mayFollow rest = readItems last read steps mayFollow s := by
  cases steps with
  | zero => rfl
  | succ steps => simp only [readItems, h, skipGap_of_skipGap h]

theorem readItems_closing {read : List Char → Option (α × List Char)} {s rest : List Char}
    (h : skipGap s = some (last :: rest)) (steps : Nat) (mayFollow : Bool) :
    readItems last read (steps + 1) mayFollow s = some ([], last :: rest) := by
  simp [readItems, h]

/-- The gap in front of items or of the closing mark ends there. -/
theorem exists_skipGap_separated {inside : List Char} (hlast : isClosing last = true)
    (h : Separated (fun a text => Reads need item text a) as inside) (rest : List Char) :
    ∃ tail, skipGap (inside ++ last :: rest) = some tail := by
  cases h with
  | nil g hg => exact ⟨last :: rest, by rw [hg.skipGap, skipGap_closing hlast]⟩
  | last a g text g' hg hitem hg' =>
    constructor
    rw [List.append_assoc, List.append_assoc, hg.skipGap, (hitem.opens.append _).skipGap]
  | cons a as g text g' inside hg hitem hg' =>
    constructor
    rw [List.append_assoc, List.append_assoc, hg.skipGap, (hitem.opens.append _).skipGap]

/-- Items are read one after the other, up to the closing mark. -/
theorem readItems_separated {inside : List Char} (hlast : isClosing last = true)
    (h : Separated (fun a text => Reads need item text a) as inside) {x : Scope}
    (hx : x.extensions = .empty) (hlevels : need ≤ x.levels) (rest : List Char) {steps : Nat}
    (hsteps : as.length < steps) :
    readItems last (item x) steps true (inside ++ last :: rest) = some (as, last :: rest) := by
  induction h generalizing steps with
  | nil g hg =>
    obtain ⟨steps, rfl⟩ := Nat.exists_eq_add_one.2 (Nat.zero_lt_of_lt hsteps)
    exact readItems_closing (by rw [hg.skipGap, skipGap_closing hlast]) steps true
  | last a g text g' hg hitem hg' =>
    obtain ⟨steps, rfl⟩ : ∃ n, steps = n + 2 := Nat.exists_eq_add_of_le' hsteps
    have hopens := hitem.opens.append (g' ++ last :: rest)
    have hread := hitem.reads x hx hlevels (g' ++ last :: rest)
      (hg'.closes (closes_mark (mem_marks_of_isClosing hlast) rest))
    have hcomma : readComma (g' ++ last :: rest) = some (false, last :: rest) := by
      rw [readComma_of_gap hg', readComma_closing hlast]
    have hend : readItems last (item x) (steps + 1) false (last :: rest) =
        some ([], last :: rest) :=
      readItems_closing (skipGap_closing hlast rest) steps false
    rw [List.append_assoc, List.append_assoc, readItems, hg.skipGap, hopens.skipGap]
    simp only [bind, Option.bind, hopens.head?_ne hlast, Bool.false_eq_true, if_false, if_true,
      hread, hcomma, hend]
  | cons a as g text g' inside hg hitem hg' htail ih =>
    obtain ⟨steps, rfl⟩ := Nat.exists_eq_add_one.2 (Nat.zero_lt_of_lt hsteps)
    have hlength : as.length < steps := by simpa using hsteps
    -- the comma already takes the gap behind it away, which the next item would skip itself
    obtain ⟨tail, hgap⟩ := exists_skipGap_separated hlast htail rest
    have hopens := hitem.opens.append (g' ++ ',' :: (inside ++ last :: rest))
    have hread := hitem.reads x hx hlevels (g' ++ ',' :: (inside ++ last :: rest))
      (hg'.closes (closes_mark (by decide) _))
    have hcomma : readComma (g' ++ ',' :: (inside ++ last :: rest)) = some (true, tail) := by
      rw [readComma_of_gap hg', readComma_comma hgap]
    have htext : g ++ (text ++ (g' ++ ',' :: inside)) ++ last :: rest =
        g ++ (text ++ (g' ++ ',' :: (inside ++ last :: rest))) := by simp
    rw [htext, readItems, hg.skipGap, hopens.skipGap]
    simp only [bind, Option.bind, hopens.head?_ne hlast, Bool.false_eq_true, if_false, if_true,
      hread, hcomma, readItems_of_skipGap hgap, ih hlength]

/-- The items of a container, in any layout. -/
theorem Reads.enclosed {text : List Char} (hfirst : isOpening first = true)
    (hlast : isClosing last = true)
    (h : Enclosed first last (fun a text => Reads need item text a) as text) :
    Reads (need + 2) (readEnclosed first last item) text as := by
  obtain ⟨inside, hinside, rfl⟩ := h
  constructor
  · exact opens_cons hfirst
  · intro x hx hlevels rest hrest
    have hpositive : 0 < x.levels := by omega
    have hnested : Separated (fun a text => Reads (need + 1) (Ron.nested item) text a) as inside :=
      hinside.imp fun _ _ hitem => hitem.nested
    have hsteps : as.length < (inside ++ last :: rest).length + 1 := by
      have := hinside.length_le
      rw [List.length_append, List.length_cons]
      omega
    have hitems : readItemsUntil last item { x with levels := x.levels - 1 }
        (inside ++ last :: rest) = some (as, last :: rest) :=
      readItems_separated hlast hnested (x := { x with levels := x.levels - 1 }) hx
        (Nat.le_sub_one_of_lt (by omega)) rest hsteps
    simp [readEnclosed, expect, enter_of_lt hpositive, hitems]

/-- A list of strings, in any layout. -/
theorem Reads.strings {as : List String} {text : List Char}
    (h : Enclosed '[' ']' StringLayout as text) :
    Reads 2 (readList (anywhere readString)) text as := by
  have hopen : isOpening '[' = true := by decide
  have hclose : isClosing ']' = true := by decide
  obtain ⟨inside, hinside, htext⟩ := h
  exact Reads.enclosed hopen hclose ⟨inside, hinside.imp fun _ _ => reads_stringLayout, htext⟩

/-- A list, laid out on lines. -/
theorem Reads.list {write : Writer α} (h : ∀ a ∈ as, Reads need item (write (depth + 1) a) a) :
    Reads (need + 2) (readList item) (writeList write depth as) as := by
  have hopen : isOpening '[' = true := by decide
  have hclose : isClosing ']' = true := by decide
  exact Reads.enclosed hopen hclose (enclosed_writeEnclosed (List.forall₂_same.2 h))

end Containers

/-! ## Tuples -/

section Tuples

variable {need depth : Nat} {item : Reader α} {write : Writer β} {bs : List β} {as : List α}

theorem opens_writeInline {b : β} {a : α} (h : Reads need item (write depth b) a) (bs : List β) :
    Opens (writeInline write depth (b :: bs)) := by
  cases bs with
  | nil => exact h.opens
  | cons b' bs => exact h.opens.append _

/-- Items on one line are read one after the other, as many as there are. -/
theorem readCount_inline (h : List.Forall₂ (fun b a => Reads need item (write depth b) a) bs as)
    {x : Scope} (hx : x.extensions = .empty) (hlevels : need ≤ x.levels) (rest : List Char) :
    readCount ')' (item x) bs.length true (writeInline write depth bs ++ ')' :: rest) =
      some (as, ')' :: rest) := by
  have hclose : isClosing ')' = true := by decide
  induction h with
  | nil => simp [readCount, writeInline, skipGap_closing hclose]
  | @cons b a bs as hitem htail ih =>
    have hopens := (opens_writeInline hitem bs).append (')' :: rest)
    rw [List.length_cons, readCount, hopens.skipGap]
    simp only [bind, Option.bind, hopens.head?_ne hclose, Bool.not_true, Bool.or_self,
      Bool.false_eq_true, if_false]
    cases htail with
    | nil =>
      rw [writeInline, hitem.reads x hx hlevels _ (closes_mark (by decide) rest)]
      simp [readComma_parenthesis, readCount, skipGap_closing hclose]
    | @cons b' a' bs as hnext htail =>
      have hgap : skipGap (' ' :: (writeInline write depth (b' :: bs) ++ ')' :: rest)) =
          some (writeInline write depth (b' :: bs) ++ ')' :: rest) := by
        rw [skipGap_cons_blank (by decide),
          ((opens_writeInline hnext bs).append (')' :: rest)).skipGap]
      rw [writeInline, List.append_assoc, List.cons_append, List.cons_append,
        hitem.reads x hx hlevels _ (closes_mark (by decide) _)]
      · simp only [readComma_comma hgap, ih]
      · exact List.cons_ne_nil _ _

/-- A tuple, on one line. -/
theorem Reads.tuple (h : List.Forall₂ (fun b a => Reads need item (write depth b) a) bs as) :
    Reads (need + 2) (readTuple bs.length false item) (writeTuple write depth bs) as where
  opens := opens_cons (by decide)
  reads := by
    intro x hx hlevels rest hrest
    have hpositive : 0 < x.levels := by omega
    have hinside : need + 1 ≤ x.levels - 1 := by omega
    have hitems : List.Forall₂ (fun b a => Reads (need + 1) (Ron.nested item) (write depth b) a)
        bs as := h.imp fun _ _ hitem => hitem.nested
    have hinline := readCount_inline hitems (x := { x with levels := x.levels - 1 }) hx hinside rest
    simp [readTuple, writeTuple, expect, enter_of_lt hpositive, hinline]

end Tuples

/-! ## Maps -/

section Maps

variable {need : Nat} {key : Reader α} {value : Reader β}

theorem Reads.colonValue {text : List Char} {b : β} (h : Reads need value text b) {g g' : List Char}
    (hg : IsGap g) (hg' : IsGap g') {x : Scope} (hx : x.extensions = .empty)
    (hlevels : need ≤ x.levels) {rest : List Char} (hrest : Closes rest) :
    readColonValue value x (g ++ ':' :: (g' ++ (text ++ rest))) = some (b, rest) := by
  have hcolon : skipGap (g ++ ':' :: (g' ++ (text ++ rest))) =
      some (':' :: (g' ++ (text ++ rest))) := by
    rw [hg.skipGap, skipGap_mark (by decide)]
  have hgap : skipGap (g' ++ (text ++ rest)) = some (text ++ rest) := by
    rw [hg'.skipGap, (h.opens.append rest).skipGap]
  simp [readColonValue, hcolon, expect, hgap, h.reads x hx hlevels rest hrest]

theorem Reads.entry {keyText valueText : List Char} {a : α} {b : β}
    (hkey : Reads need key keyText a) (hvalue : Reads need value valueText b) :
    Reads need (readEntry key value) (keyText ++ ':' :: ' ' :: valueText) (a, b) where
  opens := hkey.opens.append _
  reads := by
    intro x hx hlevels rest hrest
    have hcolon := hkey.reads x hx hlevels (':' :: ' ' :: (valueText ++ rest))
      (closes_mark (by decide) _)
    have hread : readColonValue value x (':' :: ' ' :: (valueText ++ rest)) = some (b, rest) :=
      hvalue.colonValue .nil isGap_space hx hlevels hrest
    simp [readEntry, hcolon, hread]

/-- A map, laid out on lines. -/
theorem Reads.orderedMap [DecidableEq α] {writeKey : Writer α} {writeValue : Writer β} {depth : Nat}
    {m : OrderedMap α β} (hkey : ∀ e ∈ m.entries, Reads need key (writeKey (depth + 1) e.1) e.1)
    (hvalue : ∀ e ∈ m.entries, Reads need value (writeValue (depth + 1) e.2) e.2) :
    Reads (need + 2) (readMap key value) (writeMap writeKey writeValue depth m) m := by
  have hentries : List.Forall₂
      (fun e e' => Reads need (readEntry key value)
        (writeEntry writeKey writeValue (depth + 1) e) e') m.entries m.entries :=
    List.forall₂_same.2 fun e he => (hkey e he).entry (hvalue e he)
  have hopen : isOpening '{' = true := by decide
  have hclose : isClosing '}' = true := by decide
  have hmap := (Reads.enclosed hopen hclose (enclosed_writeEnclosed hentries)).map OrderedMap.ofList
  rwa [OrderedMap.ofList_entries] at hmap

end Maps

/-! ## Optional values and variants -/

section Variants

variable {need : Nat} {text : List Char} {a : α}

theorem Reads.payload {read : Reader α} (h : Reads need read text a) {x : Scope}
    (hx : x.extensions = .empty) (hlevels : need + 1 ≤ x.levels) (rest : List Char) :
    readPayload read x (text ++ ')' :: rest) = some (a, rest) := by
  have hpayload := h.nested.reads x hx hlevels (')' :: rest) (closes_mark (by decide) rest)
  rw [readPayload, (h.opens.append _).skipGap]
  simp [hpayload, readComma_parenthesis, expect]

/-- An optional value, whose payload does not leave its own parentheses out. -/
theorem Reads.option {read : Bool → Reader α} {write : Writer α} {depth : Nat} {o : Option α}
    (h : ∀ a ∈ o, Reads need (read false) (write depth a) a) :
    Reads (need + 1) (readOption read) (writeOption write depth o) o where
  opens := by cases o <;> exact opens_cons (by decide)
  reads := by
    intro x hx hlevels rest hrest
    cases o with
    | none =>
      rw [readOption, writeOption, skipWord_append hrest.continuesIdentifier]
    | some a =>
      have htext : writeOption write depth (some a) ++ rest =
          ['S', 'o', 'm', 'e'] ++ '(' :: (write depth a ++ ')' :: rest) := by
        simp [writeOption, writeVariant]
      have hnone : skipWord ['N', 'o', 'n', 'e']
          (['S', 'o', 'm', 'e'] ++ '(' :: (write depth a ++ ')' :: rest)) = none := rfl
      have hpayload := (h a rfl).payload hx hlevels rest
      rw [htext, readOption, hnone, skipWord_append (by rfl)]
      simp [skipGap_parenthesis, mapReader, hx, Extensions.empty, hpayload]

/-- A variant by its name, whose payload does not leave its own parentheses out. -/
theorem Reads.variant {name : String} {payload : String → Option (Bool → Reader α)}
    {read : Bool → Reader α} (hname : isName name.toList = true)
    (hpayload : payload name = some read) (h : Reads need (read false) text a) :
    Reads (need + 2) (readVariant payload) (writeVariant name text) a where
  opens := (Opens.of_isName hname).append _
  reads := by
    intro x hx hlevels rest hrest
    have htext : writeVariant name text ++ rest = name.toList ++ '(' :: (text ++ ')' :: rest) := by
      simp [writeVariant]
    have hidentifier := readIdentifier_append hname
      (closes_mark (show '(' ∈ marks by decide) (text ++ ')' :: rest))
    have hpositive : 0 < x.levels := by omega
    have hinside : need + 1 ≤ x.levels - 1 := by omega
    have hread := h.payload (x := { x with levels := x.levels - 1 }) hx hinside rest
    rw [htext, readVariant, nested_of_lt _ hpositive]
    dsimp only
    rw [nested_of_lt _ (Nat.zero_lt_of_lt hinside), anywhere, hidentifier]
    simpa [hpayload, skipGap_parenthesis, expect, hx, Extensions.empty] using hread

end Variants

/-! ## Structs -/

section Structs

variable {need depth : Nat} {fields : List (Field σ)} {unknown : Reader Unit}

/-- A field by its name. -/
theorem Labelled.reads {name : β → String} {value : Layout β} {read : Reader (FieldUpdate σ)}
    {update : FieldUpdate σ} {b : β} {text : List Char} (h : Labelled name value b text)
    (hname : isName (name b).toList = true)
    (hfield : fields.find? (fun f => f.1 == name b) = some (name b, read))
    (hvalue : ∀ text, value b text → Reads need read text update) :
    Reads need (readField fields unknown) text update := by
  obtain ⟨g, g', valueText, hg, hg', htext, rfl⟩ := h
  constructor
  · exact (Opens.of_isName hname).append _
  · intro x hx hlevels rest hrest
    have hidentifier := readIdentifier_append hname
      (hg.closes (closes_mark (show ':' ∈ marks by decide) (g' ++ (valueText ++ rest))))
    have hcolon := (hvalue valueText htext).colonValue hg hg' hx hlevels hrest
    simp [readField, hidentifier, hfield, hcolon]

theorem Reads.field {name : String} {text : Nat → List Char} {read : Reader (FieldUpdate σ)}
    {update : FieldUpdate σ} (hname : isName name.toList = true)
    (hfield : fields.find? (fun f => f.1 == name) = some (name, read))
    (h : Reads need read (text depth) update) :
    Reads need (readField fields unknown) (writeField depth (name, text)) update := by
  have hwritten : Labelled (fun _ => name) (fun _ text => Reads need read text update) ()
      (writeField depth (name, text)) := labelled_writeField h
  exact hwritten.reads hname hfield fun _ htext => htext

/-- A struct, in any layout: its fields give the record from which it is built. -/
theorem Reads.structLayout {name : String} {start st : σ} {build : σ → Option α} {a : α}
    {updates : List (FieldUpdate σ)} {text : List Char} (hname : isName name.toList = true)
    (h : StructLayout name (fun u text => Reads need (readField fields unknown) text u) updates
      text)
    (hupdates : applyUpdates start updates = some st) (hbuild : build st = some a) :
    Reads (need + 2) (readStruct false name fields unknown start build) text a := by
  have hopen : isOpening '(' = true := by decide
  have hclose : isClosing ')' = true := by decide
  obtain ⟨body, hbody, hhead⟩ := h
  have henclosed := Reads.enclosed hopen hclose hbody
  -- behind the name, if there is one, the struct goes on with its parentheses
  have hbehind : ∀ {x : Scope} {s s' rest : List Char}, x.extensions = .empty →
      need + 2 ≤ x.levels → Closes rest → skipStructName name x s = some s' →
      skipGap s' = some (body ++ rest) →
      readStruct false name fields unknown start build x s = some (a, rest) := by
    intro x s s' rest hx hlevels hrest hname hgap
    simp [readStruct, hname, hgap, henclosed.reads x hx hlevels rest hrest, hupdates, hbuild]
  obtain ⟨inside, -, hinside⟩ := hbody
  have hstart : ∀ rest, body ++ rest = '(' :: (inside ++ ')' :: rest) := by simp [hinside]
  constructor
  · rcases hhead with rfl | ⟨g, -, rfl⟩
    · exact henclosed.opens
    · exact (Opens.of_isName hname).append _
  · intro x hx hlevels rest hrest
    rcases hhead with rfl | ⟨g, hg, rfl⟩
    · refine hbehind hx hlevels hrest ?_ (henclosed.opens.append rest).skipGap
      have hmark : continuesIdentifier ('(' :: (inside ++ ')' :: rest)) = false :=
        (closes_mark (by decide) _).continuesIdentifier
      simp [skipStructName, hstart, hmark, hx, Extensions.empty]
    · have hcloses : Closes (g ++ (body ++ rest)) := by
        rw [hstart]
        exact hg.closes (closes_mark (by decide) _)
      have hgap : skipGap (g ++ (body ++ rest)) = some (body ++ rest) := by
        rw [hg.skipGap, (henclosed.opens.append rest).skipGap]
      refine hbehind hx hlevels hrest ?_ hgap
      have hidentifier := readIdentifier_append hname hcloses
      rw [List.append_assoc, List.append_assoc, skipStructName, continuesIdentifier_append hname,
        if_pos rfl, hidentifier]
      simp

/-- A struct, laid out on lines: the fields that are written give the record from which it is
built. -/
theorem Reads.struct {name : String} {start st : σ} {build : σ → Option α} {a : α}
    {written : List (String × (Nat → List Char))} {updates : List (FieldUpdate σ)}
    (hname : isName name.toList = true)
    (h : List.Forall₂
      (fun f u => Reads need (readField fields unknown) (writeField (depth + 1) f) u)
      written updates)
    (hupdates : applyUpdates start updates = some st) (hbuild : build st = some a) :
    Reads (need + 2) (readStruct false name fields unknown start build)
      (writeStruct name depth written) a :=
  Reads.structLayout hname (structLayout_writeStruct h) hupdates hbuild

end Structs

/-- A document without attributes is read as the value that stands between its gaps. -/
theorem Reads.document {read : Reader α} {value : Layout β} {b : β} {a : α} {text : String}
    (h : DocumentLayout value b text.toList)
    (hvalue : ∀ valueText, value b valueText →
      Reads levelLimit read valueText a ∧ valueText.head? ≠ some '#') :
    Ron.parse read text = some a := by
  obtain ⟨g, g', valueText, hg, hg', htext, hlayout⟩ := h
  obtain ⟨hreads, hattributes⟩ := hvalue valueText htext
  have hcloses : Closes (g' ++ []) := hg'.closes trivial
  rw [List.append_nil] at hcloses
  have hread := hreads.reads ⟨.empty, levelLimit⟩ rfl (Nat.le_refl _) g' hcloses
  have hbegin : skipGap text.toList = some (valueText ++ g') := by
    rw [hlayout, hg.skipGap, (hreads.opens.append g').skipGap]
  have hnone : readAttributes ((valueText ++ g').length + 1) .empty (valueText ++ g') =
      some (.empty, valueText ++ g') := by
    obtain ⟨c, rest, rfl, -⟩ := hreads.opens
    unfold readAttributes
    split
    · rename_i heq
      cases heq
      exact absurd rfl hattributes
    · rfl
  have hend : skipGap g' = some [] := by simpa [skipGap, skipGapFrom] using hg'.skipGap []
  simp only [Ron.parse, bind, Option.bind, hbegin, hnone, hread, hend, List.isEmpty_nil, if_true]

theorem Reads.parse {read : Reader α} {text : List Char} {a : α}
    (h : Reads levelLimit read text a) (hattributes : text.head? ≠ some '#') :
    Ron.parse read (String.ofList text) = some a := by
  have hdocument : DocumentLayout
      (fun a text => Reads levelLimit read text a ∧ text.head? ≠ some '#') a
      (String.ofList text).toList :=
    ⟨[], [], text, .nil, .nil, ⟨h, hattributes⟩, by simp⟩
  exact Reads.document hdocument fun _ hvalue => hvalue

end Ron

end ShadingGraph
