import Mathlib.Data.List.Induction
import Mathlib.Logic.Basic
import ShadingGraph.Command.Arguments

/-!
# The grammar of arguments

Arguments are read from the left as items: a switch, an option with the argument behind it as its
value, or a path. What is read so far depends on the items alone, and for each field on the last
item that sets it. A request for help ends the reading at once; a mistake does so too, and whichever
of them comes first decides.

## Main definitions

- `ArgumentItem` — a switch, an option with its value, or a path
- `CommandLine.ofItems` — the last value of each field
- `CommandLine.Reading` — what comes of arguments
- `Reorders` — items are put into another order, but those of each field stay in theirs

## Main results

- `CommandLine.ofItems_concat` — what an item sets, and what it leaves
- `CommandLine.readArguments_items` — items are read as what they set
- `CommandLine.reorders_swap` — items of different fields can change their places
- `CommandLine.ofArguments_iff_reading` — which arguments are accepted and as what, and that the
  order of fields does not matter
-/

namespace ShadingGraph

/-! ## Items -/

/-- The text of a switch. -/
def Switch.flag : Switch → String
  | .json => "--json"
  | .dump => "--dump"
  | .watch => "--watch"

/-- A dash begins the argument. -/
def HasDash (argument : String) : Prop := argument.toList.head? = some '-'

instance : DecidablePred HasDash := fun argument =>
  inferInstanceAs (Decidable (argument.toList.head? = some '-'))

/-- A request for help. -/
def IsHelp (argument : String) : Prop := argument = "-h" ∨ argument = "--help"

/-- A dash begins the argument, but it is neither an option nor a request for help. -/
structure IsUnknown (argument : String) : Prop where
  hasDash : HasDash argument
  not_help : ¬ IsHelp argument
  ne_switch : ∀ s : Switch, argument ≠ s.flag
  ne_option : ∀ option : ValueOption, argument ≠ option.flag

/-- What an item can set. -/
inductive ArgumentField where
  | switch (s : Switch)
  | option (option : ValueOption)
  | network
deriving DecidableEq

/-- Arguments that belong together: one, or an option and its value, whatever the value is. -/
inductive ArgumentItem where
  | switch (s : Switch)
  | option (option : ValueOption) (value : String)
  | path (path : String) (hpath : ¬ HasDash path)

namespace ArgumentItem

/-- The arguments of an item. -/
def arguments : ArgumentItem → List String
  | .switch s => [s.flag]
  | .option o value => [o.flag, value]
  | .path p _ => [p]

/-- What an item sets. -/
def field : ArgumentItem → ArgumentField
  | .switch s => .switch s
  | .option o _ => .option o
  | .path _ _ => .network

/-- The value of an item; a switch has none. -/
def value? : ArgumentItem → Option String
  | .switch _ => none
  | .option _ value => some value
  | .path p _ => some p

end ArgumentItem

/-- The items that set a field. -/
def itemsOf (items : List ArgumentItem) (field : ArgumentField) : List ArgumentItem :=
  items.filter fun i => i.field = field

/-- Items are put into another order, but those that set the same field keep theirs. -/
def Reorders (items items' : List ArgumentItem) : Prop :=
  ∀ field, itemsOf items field = itemsOf items' field

/-- There is at most one path. -/
def AtMostOnePath (items : List ArgumentItem) : Prop := (itemsOf items .network).length ≤ 1

namespace CommandLine

/-- The value of the last item that sets a field. -/
def lastValue? (items : List ArgumentItem) (field : ArgumentField) : Option String :=
  (itemsOf items field).getLast?.bind ArgumentItem.value?

/-- Whether there is an item that turns a switch on. -/
def isOn (items : List ArgumentItem) (s : Switch) : Bool := !(itemsOf items (.switch s)).isEmpty

/-- The command line whose fields have the values of the last items that set them; a field that no
item sets is left at its default. -/
def ofItems (items : List ArgumentItem) : CommandLine where
  network := lastValue? items .network
  registry := lastValue? items (.option .registry)
  settings := lastValue? items (.option .settings)
  material := lastValue? items (.option .material)
  json := isOn items .json
  dump := isOn items .dump
  watch := isOn items .watch
  writeSettings := lastValue? items (.option .writeSettings)
  help := false

/-- What comes of arguments. Whatever happens, items stand in front of it. -/
inductive Reading : List String → Except UsageError CommandLine → Prop where
  /-- A request for help, behind which nothing matters. No network is looked at for it. -/
  | help (items : List ArgumentItem) (hpaths : AtMostOnePath items) (argument : String)
    (hhelp : IsHelp argument) (rest : List String) :
    Reading (items.flatMap (·.arguments) ++ argument :: rest)
      (.ok { ofItems items with network := none, help := true })
  /-- Items and nothing else, with a path or settings to write. -/
  | complete (items : List ArgumentItem) (hpaths : AtMostOnePath items)
    (hneeded : itemsOf items .network ≠ [] ∨ itemsOf items (.option .writeSettings) ≠ []) :
    Reading (items.flatMap (·.arguments)) (.ok (ofItems items))
  /-- Items and nothing else, with neither a path nor settings to write. -/
  | missingNetwork (items : List ArgumentItem) (hnetwork : itemsOf items .network = [])
    (hwrite : itemsOf items (.option .writeSettings) = []) :
    Reading (items.flatMap (·.arguments)) (.error .missingNetwork)
  /-- An option without a value. -/
  | missingValue (items : List ArgumentItem) (hpaths : AtMostOnePath items)
    (option : ValueOption) :
    Reading (items.flatMap (·.arguments) ++ [option.flag]) (.error (.missingValue option))
  | unknown (items : List ArgumentItem) (hpaths : AtMostOnePath items) (argument : String)
    (hunknown : IsUnknown argument) (rest : List String) :
    Reading (items.flatMap (·.arguments) ++ argument :: rest) (.error (.unknownArgument argument))
  /-- A second path. -/
  | unexpected (items : List ArgumentItem) (hpaths : (itemsOf items .network).length = 1)
    (path : String) (hpath : ¬ HasDash path) (rest : List String) :
    Reading (items.flatMap (·.arguments) ++ path :: rest) (.error (.unexpectedArgument path))

end CommandLine

/-! ## Kinds of arguments -/

@[simp] theorem ofText_switch (s : Switch) : ArgumentKind.ofText s.flag = .switch s := by
  cases s <;> rfl

@[simp] theorem ofText_option (option : ValueOption) :
    ArgumentKind.ofText option.flag = .valueOption option := by
  cases option <;> rfl

theorem ofText_of_isHelp {argument : String} (h : IsHelp argument) :
    ArgumentKind.ofText argument = .help := by
  rcases h with rfl | rfl <;> rfl

theorem IsHelp.hasDash {argument : String} (h : IsHelp argument) : HasDash argument := by
  rcases h with rfl | rfl <;> decide

theorem Switch.hasDash_flag (s : Switch) : HasDash s.flag := by cases s <;> decide

theorem ValueOption.hasDash_flag (o : ValueOption) : HasDash o.flag := by cases o <;> decide

/-- Behind the options, only the first character of an argument matters. -/
theorem ofText_of_ne {argument : String} (hhelp : ¬ IsHelp argument)
    (hswitch : ∀ s : Switch, argument ≠ s.flag) (hoption : ∀ o : ValueOption, argument ≠ o.flag) :
    ArgumentKind.ofText argument =
      if HasDash argument then .unknown else .positional := by
  unfold ArgumentKind.ofText
  split
  · exact absurd (.inl rfl) hhelp
  · exact absurd (.inr rfl) hhelp
  · exact absurd rfl (hswitch .json)
  · exact absurd rfl (hswitch .dump)
  · exact absurd rfl (hswitch .watch)
  · exact absurd rfl (hoption .registry)
  · exact absurd rfl (hoption .settings)
  · exact absurd rfl (hoption .writeSettings)
  · exact absurd rfl (hoption .material)
  · rfl

theorem ofText_of_isUnknown {argument : String} (h : IsUnknown argument) :
    ArgumentKind.ofText argument = .unknown := by
  rw [ofText_of_ne h.not_help h.ne_switch h.ne_option, if_pos h.hasDash]

theorem ofText_of_not_hasDash {argument : String} (h : ¬ HasDash argument) :
    ArgumentKind.ofText argument = .positional := by
  have hhelp : ¬ IsHelp argument := fun hhelp => h hhelp.hasDash
  have hswitch : ∀ s : Switch, argument ≠ s.flag := by
    rintro s rfl
    exact h s.hasDash_flag
  have hoption : ∀ o : ValueOption, argument ≠ o.flag := by
    rintro o rfl
    exact h o.hasDash_flag
  rw [ofText_of_ne hhelp hswitch hoption, if_neg h]

/-- Every argument is of one of these kinds. -/
theorem kind_cases (argument : String) :
    IsHelp argument ∨ (∃ s : Switch, argument = s.flag) ∨ (∃ o : ValueOption, argument = o.flag) ∨
      IsUnknown argument ∨ ¬ HasDash argument := by
  by_cases hhelp : IsHelp argument
  · exact .inl hhelp
  by_cases hswitch : ∃ s : Switch, argument = s.flag
  · exact .inr (.inl hswitch)
  by_cases hoption : ∃ o : ValueOption, argument = o.flag
  · exact .inr (.inr (.inl hoption))
  by_cases hdash : HasDash argument
  · exact .inr (.inr (.inr (.inl ⟨hdash, hhelp, not_exists.1 hswitch, not_exists.1 hoption⟩)))
  · exact .inr (.inr (.inr (.inr hdash)))

/-! ## What items set -/

theorem itemsOf_concat (items : List ArgumentItem) (i : ArgumentItem) (field : ArgumentField) :
    itemsOf (items ++ [i]) field =
      if i.field = field then itemsOf items field ++ [i] else itemsOf items field := by
  unfold itemsOf
  split <;> simp_all

theorem atMostOnePath_concat_iff {items : List ArgumentItem} {i : ArgumentItem} :
    AtMostOnePath (items ++ [i]) ↔
      AtMostOnePath items ∧ (i.field = .network → itemsOf items .network = []) := by
  unfold AtMostOnePath
  rw [itemsOf_concat]
  split
  case isTrue hi =>
    rw [List.length_append, List.length_singleton, ← List.length_eq_zero_iff]
    simp only [hi, true_implies]
    omega
  case isFalse hi => simp [hi]

namespace CommandLine

variable {items : List ArgumentItem} {i : ArgumentItem}

/-- The command line behind an item. -/
def take (c : CommandLine) : ArgumentItem → CommandLine
  | .switch s => c.turnOn s
  | .option o value => c.assign o value
  | .path path _ => { c with network := some path }

theorem lastValue?_concat (items : List ArgumentItem) (i : ArgumentItem) (field : ArgumentField) :
    lastValue? (items ++ [i]) field =
      if i.field = field then i.value? else lastValue? items field := by
  unfold lastValue?
  rw [itemsOf_concat]
  split <;> simp

theorem isOn_concat (items : List ArgumentItem) (i : ArgumentItem) (s : Switch) :
    isOn (items ++ [i]) s = if i.field = .switch s then true else isOn items s := by
  unfold isOn
  rw [itemsOf_concat]
  split <;> simp

/-- An item sets its field and leaves the other ones. -/
theorem ofItems_concat (items : List ArgumentItem) (i : ArgumentItem) :
    ofItems (items ++ [i]) = (ofItems items).take i := by
  unfold ofItems
  simp only [lastValue?_concat, isOn_concat]
  cases i with
  | switch s => cases s <;> rfl
  | option o value => cases o <;> rfl
  | path p hpath => rfl

/-- Only switches have no value. -/
theorem lastValue?_eq_none_iff {field : ArgumentField} (hfield : ∀ s, field ≠ .switch s) :
    lastValue? items field = none ↔ itemsOf items field = [] := by
  unfold lastValue?
  cases hlast : (itemsOf items field).getLast? with
  | none => simp [List.getLast?_eq_none_iff.1 hlast]
  | some i =>
    have hmem := List.mem_of_getLast? hlast
    have hi : i.field = field := by simpa using (List.mem_filter.1 hmem).2
    have hvalue : i.value? ≠ none := by
      cases i with
      | switch s => exact absurd hi.symm (hfield s)
      | option o value => exact Option.some_ne_none _
      | path p hpath => exact Option.some_ne_none _
    simp [hvalue, List.ne_nil_of_mem hmem]

theorem network_ofItems_eq_none_iff :
    (ofItems items).network = none ↔ itemsOf items .network = [] :=
  lastValue?_eq_none_iff fun _ => ArgumentField.noConfusion

theorem complete_ofItems (items : List ArgumentItem) :
    (ofItems items).complete =
      if itemsOf items .network = [] ∧ itemsOf items (.option .writeSettings) = [] then
        .error .missingNetwork
      else .ok (ofItems items) := by
  have hwrite : (ofItems items).writeSettings = none ↔
      itemsOf items (.option .writeSettings) = [] :=
    lastValue?_eq_none_iff fun _ => ArgumentField.noConfusion
  unfold complete
  simp only [Option.isNone_iff_eq_none, network_ofItems_eq_none_iff, hwrite]

/-! ## Reading items -/

/-- An item is read as what it sets, unless it is a second path. -/
theorem readArguments_item (c : CommandLine) {i : ArgumentItem}
    (hi : i.field = .network → c.network = none) (rest : List String) :
    c.readArguments (i.arguments ++ rest) = (c.take i).readArguments rest := by
  cases i with
  | switch s => simp [ArgumentItem.arguments, readArguments, take]
  | option o value => simp [ArgumentItem.arguments, readArguments, take]
  | path p hpath =>
    simp [ArgumentItem.arguments, readArguments, take, ofText_of_not_hasDash hpath, hi rfl]

theorem readArguments_concat (h : AtMostOnePath (items ++ [i])) (rest : List String) :
    (ofItems items).readArguments (i.arguments ++ rest) =
      (ofItems (items ++ [i])).readArguments rest := by
  rw [ofItems_concat]
  refine readArguments_item _ (fun hi => ?_) rest
  exact network_ofItems_eq_none_iff.2 ((atMostOnePath_concat_iff.1 h).2 hi)

/-- Items are read as what they set. -/
theorem readArguments_items (hpaths : AtMostOnePath items) (rest : List String) :
    ofArguments (items.flatMap (·.arguments) ++ rest) = (ofItems items).readArguments rest := by
  induction items using List.reverseRecOn generalizing rest with
  | nil => rfl
  | append_singleton items i ih =>
    have hi : ofArguments (items.flatMap (·.arguments) ++ (i.arguments ++ rest)) = _ :=
      ih (atMostOnePath_concat_iff.1 hpaths).1 _
    rw [← readArguments_concat hpaths, ← hi]
    simp

/-- Items alone are the command line that they set, if it asks for anything. -/
theorem ofArguments_items (hpaths : AtMostOnePath items) :
    ofArguments (items.flatMap (·.arguments)) =
      if itemsOf items .network = [] ∧ itemsOf items (.option .writeSettings) = [] then
        .error .missingNetwork
      else .ok (ofItems items) := by
  have hread := readArguments_items hpaths []
  rwa [List.append_nil, readArguments, complete_ofItems] at hread

/-! ## What comes of arguments -/

theorem ofArguments_of_reading {arguments : List String} {r : Except UsageError CommandLine}
    (h : Reading arguments r) : ofArguments arguments = r := by
  cases h with
  | help items hpaths argument hhelp rest =>
    rw [readArguments_items hpaths, readArguments, ofText_of_isHelp hhelp]
    rfl
  | complete items hpaths hneeded =>
    exact (ofArguments_items hpaths).trans (if_neg (not_and_or.2 hneeded))
  | missingNetwork items hnetwork hwrite =>
    have hpaths : AtMostOnePath items := by simp [AtMostOnePath, hnetwork]
    exact (ofArguments_items hpaths).trans (if_pos ⟨hnetwork, hwrite⟩)
  | missingValue items hpaths o =>
    rw [readArguments_items hpaths, readArguments, ofText_option]
  | unknown items hpaths argument hunknown rest =>
    rw [readArguments_items hpaths, readArguments, ofText_of_isUnknown hunknown]
  | unexpected items hpaths path hpath rest =>
    have hnetwork : (ofItems items).network ≠ none := by
      intro hnone
      simp [network_ofItems_eq_none_iff.1 hnone] at hpaths
    rw [readArguments_items (Nat.le_of_eq hpaths), readArguments, ofText_of_not_hasDash hpath]
    simp [Option.isSome_iff_ne_none, hnetwork]

/-- Another item goes behind items, and what follows it follows all of them. -/
theorem Reading.concat (hpaths : AtMostOnePath (items ++ [i])) {rest : List String}
    (h : Reading ((items ++ [i]).flatMap (·.arguments) ++ rest)
      ((ofItems (items ++ [i])).readArguments rest)) :
    Reading (items.flatMap (·.arguments) ++ (i.arguments ++ rest))
      ((ofItems items).readArguments (i.arguments ++ rest)) := by
  rw [readArguments_concat hpaths]
  simpa using h

/-- Behind items, arguments go on with another item, or the next of them decides. -/
theorem reading_readArguments (items : List ArgumentItem) (hpaths : AtMostOnePath items) :
    (arguments : List String) →
      Reading (items.flatMap (·.arguments) ++ arguments) ((ofItems items).readArguments arguments)
  | [] => by
    rw [List.append_nil, readArguments, complete_ofItems]
    split
    case isTrue hnone => exact .missingNetwork items hnone.1 hnone.2
    case isFalse hneeded => exact .complete items hpaths (not_and_or.1 hneeded)
  | argument :: rest => by
    rcases kind_cases argument with hhelp | ⟨s, rfl⟩ | ⟨o, rfl⟩ | hunknown | hpath
    · rw [readArguments, ofText_of_isHelp hhelp]
      exact .help items hpaths argument hhelp rest
    · have hnext : AtMostOnePath (items ++ [.switch s]) :=
        atMostOnePath_concat_iff.2 ⟨hpaths, nofun⟩
      exact Reading.concat hnext (reading_readArguments (items ++ [.switch s]) hnext rest)
    · cases rest with
      | nil =>
        rw [readArguments, ofText_option]
        exact .missingValue items hpaths o
      | cons value rest =>
        have hnext : AtMostOnePath (items ++ [.option o value]) :=
          atMostOnePath_concat_iff.2 ⟨hpaths, nofun⟩
        exact Reading.concat hnext (reading_readArguments (items ++ [.option o value]) hnext rest)
    · rw [readArguments, ofText_of_isUnknown hunknown]
      exact .unknown items hpaths argument hunknown rest
    · by_cases hnetwork : itemsOf items .network = []
      · have hnext : AtMostOnePath (items ++ [.path argument hpath]) :=
          atMostOnePath_concat_iff.2 ⟨hpaths, fun _ => hnetwork⟩
        exact Reading.concat hnext
          (reading_readArguments (items ++ [.path argument hpath]) hnext rest)
      · have hone : (itemsOf items .network).length = 1 :=
          Nat.le_antisymm hpaths (List.length_pos_iff.2 hnetwork)
        have hreading := Reading.unexpected items hone argument hpath rest
        rwa [← ofArguments_of_reading hreading, readArguments_items hpaths] at hreading
  termination_by arguments => arguments.length

/-! ## The order of items -/

/-- Of several paths, the second one is refused. -/
theorem ofArguments_of_paths (h : ¬ AtMostOnePath items) :
    ∃ path, (itemsOf items .network)[1]?.bind ArgumentItem.value? = some path ∧
      ofArguments (items.flatMap (·.arguments)) = .error (.unexpectedArgument path) := by
  obtain ⟨first, second, more, hpaths⟩ :
      ∃ first second more, itemsOf items .network = first :: second :: more := by
    unfold AtMostOnePath at h
    match itemsOf items .network, h with
    | [], h => simp at h
    | [_], h => simp at h
    | first :: second :: more, _ => exact ⟨first, second, more, rfl⟩
  -- the second path parts the items, and in front of it there is the first one only
  obtain ⟨front, back, rfl, hfront, hback⟩ :=
    List.filter_eq_append_iff.1 (hpaths.trans (List.singleton_append (x := first)).symm)
  obtain ⟨between, after, rfl, hbetween, hsecond, -⟩ := List.filter_eq_cons_iff.1 hback
  have hone : itemsOf (front ++ between) .network = [first] := by
    rw [itemsOf, List.filter_append, hfront, List.filter_eq_nil_iff.2 hbetween, List.append_nil]
  cases second with
  | switch s => simp [ArgumentItem.field] at hsecond
  | option o value => simp [ArgumentItem.field] at hsecond
  | path p hpath =>
    refine ⟨p, by simp [hpaths, ArgumentItem.value?], ?_⟩
    have hreading := Reading.unexpected (front ++ between) (congrArg List.length hone) p hpath
      (after.flatMap (·.arguments))
    rw [← ofArguments_of_reading hreading]
    simp [ArgumentItem.arguments]

theorem ofItems_congr {items' : List ArgumentItem} (h : Reorders items items') :
    ofItems items = ofItems items' := by
  simp only [ofItems, lastValue?, isOn, h _]

theorem ofArguments_reorder {items' : List ArgumentItem} (h : Reorders items items') :
    ofArguments (items.flatMap (·.arguments)) = ofArguments (items'.flatMap (·.arguments)) := by
  by_cases hpaths : AtMostOnePath items
  · have hpaths' : AtMostOnePath items' := by rwa [AtMostOnePath, ← h]
    rw [ofArguments_items hpaths, ofArguments_items hpaths', ofItems_congr h, h, h]
  · have hpaths' : ¬ AtMostOnePath items' := by rwa [AtMostOnePath, ← h]
    obtain ⟨path, hpath, hread⟩ := ofArguments_of_paths hpaths
    obtain ⟨path', hpath', hread'⟩ := ofArguments_of_paths hpaths'
    rw [h, hpath', Option.some.injEq] at hpath
    rw [hread, hread', hpath]

/-- Two items beside each other that set different fields can change their places. -/
theorem reorders_swap {i j : ArgumentItem} (hij : i.field ≠ j.field)
    (front back : List ArgumentItem) :
    Reorders (front ++ i :: j :: back) (front ++ j :: i :: back) := by
  intro field
  have : ¬ (i.field = field ∧ j.field = field) := fun h => hij (h.1.trans h.2.symm)
  by_cases hi : i.field = field <;> by_cases hj : j.field = field <;> simp_all [itemsOf]

/-- Every list of arguments comes to what its reading says, and nothing else; and items that set
different fields can stand in any order. -/
theorem ofArguments_iff_reading :
    (∀ arguments r, ofArguments arguments = r ↔ Reading arguments r) ∧
      ∀ items items', Reorders items items' →
        ofArguments (items.flatMap (·.arguments)) = ofArguments (items'.flatMap (·.arguments)) := by
  refine ⟨fun arguments r => ⟨?_, ofArguments_of_reading⟩, fun items items' => ofArguments_reorder⟩
  rintro rfl
  exact reading_readArguments [] (Nat.zero_le 1) arguments

/-- An option whose value looks like a request for help, and a path behind it. -/
def sampleItems : List ArgumentItem :=
  [.option .settings "--help", .path "brick.ron" (by decide)]

/-- The same with the path in front. -/
def sampleReordered : List ArgumentItem :=
  [.path "brick.ron" (by decide), .option .settings "--help"]

/-- No help is asked for, and the path can stand on either side. -/
theorem ofArguments_sampleItems :
    Reorders sampleItems sampleReordered ∧
      ofArguments ["--settings", "--help", "brick.ron"] =
        ofArguments ["brick.ron", "--settings", "--help"] ∧
      Reading ["brick.ron", "--settings", "--help"]
        (.ok { empty with network := some "brick.ron", settings := some "--help" }) := by
  have hreorders : Reorders sampleItems sampleReordered := reorders_swap (by decide) [] []
  have ⟨hreading, horder⟩ := ofArguments_iff_reading
  exact ⟨hreorders, horder sampleItems sampleReordered hreorders, (hreading _ _).1 rfl⟩

end CommandLine

end ShadingGraph
