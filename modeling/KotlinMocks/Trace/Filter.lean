import KotlinMocks.Trace.Event
import KotlinMocks.Trace.Directive
import KotlinMocks.Text.Pattern.Search

/-!
# Event filters

A filter is built from directives. A directive with no span name and no field values is
static: it applies to every event whose origin starts with its origin and that has its field
names. The static directives are kept from the most specific to the least (longest origin,
then most field names), a later directive replacing an earlier one that selects the same; the
first that applies to an event decides whether the event is detailed enough.

A directive with a span name or fields is dynamic: it applies to the spans it names. A span
that some dynamic directive applies to sets, while events happen inside it, the highest
limit among the directives whose field values it holds (none: nothing). An event inside such
a span passes when it is within that limit.

Before all that, nothing more detailed than the filter's overall limit is recorded at all,
spans included: the highest limit of any directive, or everything once some directive asks
for field values.
-/

namespace KotlinMocks.Trace

/-- A directive that looks only at origins and field names. -/
structure StaticDirective where
  origin : Option String
  fieldNames : List String
  limit : Limit

/-- Whether a directive applies to spans. -/
def Directive.isDynamic (d : Directive) : Bool := d.span.isSome || !d.fields.isEmpty

/-- Whether a directive can be used as a static one: no span name and no field values. -/
def Directive.isStatic (d : Directive) : Bool := d.span.isNone && d.fields.all (·.value.isNone)

/-- The static form of a directive. -/
def Directive.toStatic (d : Directive) : StaticDirective := ⟨d.origin, d.fields.map (·.name), d.limit⟩

/-- Compares two optional values, absence first. -/
def compareOption [Ord α] : Option α → Option α → Ordering
  | none, none => .eq
  | none, some _ => .lt
  | some _, none => .gt
  | some a, some b => compare a b

/-- Compares two lists of texts item by item, a list before its extensions. -/
def compareTexts : List String → List String → Ordering
  | [], [] => .eq
  | [], _ :: _ => .lt
  | _ :: _, [] => .gt
  | a :: as, b :: bs => (compare a b).then (compareTexts as bs)

/-- How specific a static directive is, compared with another: by the length of its origin
(none below every length), the number of its field names, then its origin and names. -/
def StaticDirective.compareSpecific (a b : StaticDirective) : Ordering :=
  (compareOption (a.origin.map String.length) (b.origin.map String.length)).then
    ((compare a.fieldNames.length b.fieldNames.length).then
      ((compareOption a.origin b.origin).then (compareTexts a.fieldNames b.fieldNames)))

/-- Whether two static directives select the same events. -/
def StaticDirective.sameSelection (a b : StaticDirective) : Bool :=
  a.origin == b.origin && a.fieldNames == b.fieldNames

/-- Adds a static directive to a list kept from the most specific to the least; one that
selects the same events is replaced. -/
def insertStatic (ds : List StaticDirective) (d : StaticDirective) : List StaticDirective :=
  if ds.any d.sameSelection then ds.map fun e => if d.sameSelection e then d else e
  else
    let (front, back) := ds.span fun e => e.compareSpecific d == .gt
    front ++ d :: back

/-- Whether two dynamic directives ask the same: same origin, span name and fields. -/
def Directive.sameRequest (a b : Directive) : Bool :=
  a.origin == b.origin && a.span == b.span && a.fields.length == b.fields.length &&
    (a.fields.zip b.fields).all fun (x, y) => x.same y

/-- A filter. -/
structure EventFilter where
  /-- The static directives, the most specific first. -/
  statics : List StaticDirective := []
  /-- The highest limit of any static directive ever added. -/
  staticMax : Limit := 0
  dynamics : List Directive := []
  /-- The highest limit of any dynamic directive ever added. -/
  dynamicMax : Limit := 0

namespace EventFilter

/-- Adds a static directive. -/
def addStatic (f : EventFilter) (d : StaticDirective) : EventFilter :=
  { f with statics := insertStatic f.statics d, staticMax := max f.staticMax d.limit }

/-- Adds a dynamic directive, replacing one that asks the same. -/
def addDynamic (f : EventFilter) (d : Directive) : EventFilter :=
  let dynamics :=
    if f.dynamics.any d.sameRequest then f.dynamics.map fun e => if d.sameRequest e then d else e
    else f.dynamics ++ [d]
  { f with dynamics, dynamicMax := max f.dynamicMax d.limit }

/-- The filter of directives: the static ones, then the static forms of the dynamic ones
that have them, then the dynamic ones. -/
def ofDirectives (ds : List Directive) : EventFilter :=
  let dynamic := ds.filter (·.isDynamic)
  let static := ds.filter (!·.isDynamic)
  let f := (static.map (·.toStatic) ++ (dynamic.filter (·.isStatic)).map (·.toStatic)).foldl addStatic {}
  dynamic.foldl addDynamic f

/-- The filter with a directive added when it has none at all. -/
def withFallback (f : EventFilter) (d : Directive) : EventFilter :=
  if f.statics.isEmpty && f.dynamics.isEmpty then
    if d.isStatic then f.addStatic d.toStatic else f.addDynamic d
  else f

/-- The most detailed level anything is recorded at. -/
def overallLimit (f : EventFilter) : Limit :=
  if f.dynamics.any (·.fields.any (·.value.isSome)) then 5 else max f.staticMax f.dynamicMax

end EventFilter

/-- Whether an origin starts with a directive's origin, if it names one. -/
def originCovers (o : Option String) (origin : String) : Bool :=
  match o with
  | some t => origin.startsWith t
  | none => true

/-- Whether a recorded value is what a directive asks: counts by number, texts by pattern. -/
def ValueMatch.admits (v : ValueMatch) (value : FieldValue) : Bool :=
  match v, value with
  | .unsigned n, .count m => n == m
  | .pattern _ p, .text s => p.matchesAtEnd s
  | .pattern _ p, .shown s => p.matchesAtEnd s
  | _, _ => false

/-- Whether a dynamic directive applies to a span: its origin, its name, and its field
names. -/
def Directive.appliesToSpan (d : Directive) (s : Span) : Bool :=
  originCovers d.origin s.origin &&
    (match d.span with
      | some n => n == s.name
      | none => true) &&
    d.fields.all fun m => s.fields.any (·.1 == m.name)

/-- Whether a span holds the values a directive asks for. -/
def Directive.heldBy (d : Directive) (s : Span) : Bool :=
  d.fields.all fun m =>
    match m.value with
    | none => true
    | some v =>
      match s.fields.lookup m.name with
      | some value => v.admits value
      | none => false

namespace EventFilter

/-- The first static directive that applies to an event decides it. -/
def staticallyEnabled (f : EventFilter) (e : Event) : Bool :=
  match f.statics.find? fun d =>
      originCovers d.origin e.origin &&
        d.fieldNames.all fun n => n == "message" || e.fields.any (·.1 == n) with
  | some d => e.level.rank ≤ d.limit
  | none => false

/-- Whether the static directives would record a span. -/
def staticallyShowsSpan (f : EventFilter) (s : Span) : Bool :=
  match f.statics.find? fun d => originCovers d.origin s.origin with
  | some d => s.level.rank ≤ d.limit
  | none => false

/-- The limit a recorded span sets for the events inside it, when a dynamic directive applies
to it. -/
def spanLimit? (f : EventFilter) (s : Span) : Option Limit :=
  if s.level.rank ≤ f.overallLimit then
    let caring := f.dynamics.filter (·.appliesToSpan s)
    if caring.isEmpty then none
    else some ((caring.filter (·.heldBy s)).foldl (fun acc d => max acc d.limit) 0)
  else none

/-- Whether an event passes the filter. -/
def enabled (f : EventFilter) (e : Event) : Bool :=
  decide (e.level.rank ≤ f.overallLimit) &&
    (f.staticallyEnabled e ||
      (!f.dynamics.isEmpty && decide (e.level.rank ≤ f.dynamicMax) &&
        e.spans.any fun s =>
          match f.spanLimit? s with
          | some l => e.level.rank ≤ l
          | none => false))

/-- The spans of an event that are recorded, outermost first: those within the overall limit
that a dynamic directive applies to, that the static directives let through, or that an
enclosing recorded span's limit lets through. -/
def shownSpans (f : EventFilter) (e : Event) : List Span :=
  (e.spans.foldl (fun (acc : List Span × List Limit) s =>
    let (shown, limits) := acc
    let within := s.level.rank ≤ f.overallLimit
    let byScope := !f.dynamics.isEmpty && decide (s.level.rank ≤ f.dynamicMax) &&
      limits.any (s.level.rank ≤ ·)
    if within && ((f.spanLimit? s).isSome || f.staticallyShowsSpan s || byScope) then
      (shown ++ [s], match f.spanLimit? s with
        | some l => limits ++ [l]
        | none => limits)
    else acc) ([], [])).1

end EventFilter

/-- What reading a list of directives gave: the directives read, a warning for each malformed
one, and the message that stopped the reading, if one did. -/
structure FilterReading where
  directives : List Directive := []
  warnings : List String := []
  aborted : Option String := none

/-- Reads directives separated by commas, skipping empty ones: a malformed one is left out
with a warning, and one that aborts ends the reading. -/
def readDirectives (s : String) : FilterReading :=
  (s.splitOn ",").foldl (fun (r : FilterReading) part =>
    if r.aborted.isSome || part.isEmpty then r
    else match Directive.read part with
      | .ok d => { r with directives := r.directives ++ [d] }
      | .error (.invalid reason) => { r with warnings := r.warnings ++ ["ignoring `" ++ part ++ "`: " ++ reason] }
      | .error (.aborted message) => { r with aborted := some message }) {}

end KotlinMocks.Trace
