import KotlinMocks.Proofs.TaggedReading
import KotlinMocks.Model.Encode
import KotlinMocks.Emit.Options

/-!
# Reading the model back from its JSON text

Every model value written by `toJson` as compact JSON text is read back by its decoder, as long
as the text nests less deeply than the reader's nesting limit; a text that nests as deep as the
limit, or deeper, is refused at the limit. Options nest two levels, so they are always read
back, their indentation width being a machine word.

A generic argument is read in two steps: its members are kept as trees, and the kind's body
then reads the kept tree with the tree instance of the same decoders. So the tree readers come
first (`TypeReference.readerUpTo_tree`, by induction on the levels of arguments the reader
allows), then the text readers, record by record.
-/

namespace KotlinMocks

open Json

/-! ## What the model is written as -/

theorem plain_optionalString (s : Option String) : (optionalString s).Plain := by
  cases s with
  | none => exact .null
  | some s => exact .string s

theorem Declaration.plain_toJson (d : Declaration) : d.toJson.Plain := by
  refine .object ?_
  simp only [List.mem_cons, List.not_mem_nil, or_false, forall_eq_or_imp, forall_eq]
  exact ⟨.string _, plain_optionalString _, .string _⟩

mutual
theorem TypeReference.plain_toJson : ∀ t : TypeReference, t.toJson.Plain
  | .mk d n args => by
    rw [TypeReference.toJson]
    refine .object ?_
    simp only [List.mem_cons, List.not_mem_nil, or_false, forall_eq_or_imp, forall_eq]
    exact ⟨d.plain_toJson, .bool n, .array (TypeReference.plain_argumentsJson args)⟩

theorem TypeReference.plain_argumentsJson :
    ∀ args : List TypeArgument, ∀ j ∈ TypeReference.argumentsJson args, j.Plain
  | [] => by simp [TypeReference.argumentsJson]
  | .star :: rest => by
    rw [TypeReference.argumentsJson]
    simp only [List.mem_cons, forall_eq_or_imp]
    refine ⟨?_, TypeReference.plain_argumentsJson rest⟩
    rw [TypeReference.argumentJson]
    refine .object ?_
    simp only [List.mem_cons, List.not_mem_nil, or_false, forall_eq]
    exact .string _
  | .type v t :: rest => by
    rw [TypeReference.argumentsJson]
    simp only [List.mem_cons, forall_eq_or_imp]
    refine ⟨?_, TypeReference.plain_argumentsJson rest⟩
    rw [TypeReference.argumentJson]
    refine .object ?_
    simp only [List.mem_cons, List.not_mem_nil, or_false, forall_eq_or_imp, forall_eq]
    exact ⟨.string _, .string _, TypeReference.plain_toJson t⟩
end

theorem TypeReference.argumentsJson_eq_map (args : List TypeArgument) :
    TypeReference.argumentsJson args = args.map TypeReference.argumentJson := by
  induction args with
  | nil => rfl
  | cons a rest same => rw [TypeReference.argumentsJson, same, List.map_cons]

/-! ## How deep the model nests -/

theorem Json.depth_le_itemsDepth {j : Json} {js : List Json} (member : j ∈ js) :
    j.depth ≤ Json.itemsDepth js := by
  induction js with
  | nil => simp at member
  | cons j' js deeper =>
      simp only [List.mem_cons] at member
      rw [Json.itemsDepth]
      rcases member with rfl | later
      · exact Nat.le_max_left _ _
      · exact Nat.le_trans (deeper later) (Nat.le_max_right _ _)

/-- The type of a generic argument nests three levels less than the reference: the
reference's object, its array of arguments and the argument's object lie around it. -/
theorem TypeReference.depth_argument {d : Declaration} {n : Bool} {args : List TypeArgument}
    {v : Variance} {t : TypeReference} (member : .type v t ∈ args) :
    t.toJson.depth + 3 ≤ (TypeReference.mk d n args).toJson.depth := by
  have listed : TypeReference.argumentJson (.type v t) ∈ TypeReference.argumentsJson args := by
    rw [TypeReference.argumentsJson_eq_map]
    exact List.mem_map_of_mem member
  have inArray := Json.depth_le_itemsDepth listed
  simp only [TypeReference.argumentJson, Json.depth, Json.membersDepth] at inArray
  simp only [TypeReference.toJson, Json.depth, Json.membersDepth]
  omega

/-! ## Reading kept trees -/

namespace TreeReader

variable {α γ : Type} {flavour : Flavour}

/-- A member read by a field of a record draft: the field's reader reads the value, the draft
stores it and marks the key. -/
theorem members_draftField {fields : List (Field TreeReader (Draft α))} {name : String}
    {required : Bool} {read : TreeReader γ} {store : α → γ → α} {j : Json} {v : γ} {a : α}
    {seen : List String} {ms : List (String × Json)}
    (found : fields.find? (·.name == name) = some (draftField name required read store))
    (fresh : seen.contains name = false) (reads : read flavour j = .ok v) :
    TreeReader.members fields flavour ((name, j) :: ms) (a, seen) =
      TreeReader.members fields flavour ms (store a v, name :: seen) := by
  rw [TreeReader.members, found]
  simp only [draftField, fresh, Bool.false_eq_true, if_false]
  rw [show ((fun v => (store a v, name :: seen)) <$> read : TreeReader (Draft α)) flavour j =
    .ok (store a v, name :: seen) by simp only [Functor.map, reads]; rfl]
  rfl

end TreeReader

/-- A record draft read from an object: its members in turn, then the check that every
required key was read. -/
theorem readRecord_tree {α : Type} {expecting : String} {start : α}
    {fields : List (Field TreeReader (Draft α))} {flavour : Flavour} {ms : List (String × Json)} :
    (readRecord expecting start fields : TreeReader α) flavour (.object ms) =
      (TreeReader.members fields flavour ms (start, []) >>=
        finishDraft ((fields.filter (·.required)).map (·.name))) := rfl

theorem Variance.reads_tree (flavour : Flavour) (v : Variance) :
    (Variance.reader : TreeReader Variance) flavour (.string v.word) = .ok v := by
  cases v <;> rfl

theorem DeclarationKind.reads_tree (flavour : Flavour) (k : DeclarationKind) :
    (DeclarationKind.reader : TreeReader DeclarationKind) flavour (.string k.word) = .ok k := by
  cases k <;> rfl

theorem Declaration.reads_tree (flavour : Flavour) (d : Declaration) :
    (Declaration.reader : TreeReader Declaration) flavour d.toJson = .ok d := by
  obtain ⟨s, q, k⟩ := d
  have optional : (TreeReader.readOptional TreeReader.readString) flavour (optionalString q) = .ok q := by
    cases q <;> rfl
  unfold Declaration.reader Declaration.toJson
  rw [readRecord_tree, TreeReader.members_draftField rfl rfl rfl,
    TreeReader.members_draftField rfl rfl optional,
    TreeReader.members_draftField rfl rfl (DeclarationKind.reads_tree flavour k)]
  rfl

/-- The body of a `type` argument reads its variance and its type. -/
theorem typeBody_reads {inner : TreeReader TypeReference} {v : Variance} {t : TypeReference}
    (reads : inner .kept t.toJson = .ok t) :
    readKept (typeBody inner) (.object [("variance", .string v.word), ("type", t.toJson)]) =
      .ok (.type v t) := by
  unfold typeBody readKept
  rw [readRecord_tree, TreeReader.members_draftField rfl rfl (Variance.reads_tree .kept v),
    TreeReader.members_draftField rfl rfl reads]
  rfl

/-- A generic argument is read back from its tree when its type is. -/
theorem TypeArgument.reads_tree {inner : TreeReader TypeReference} (flavour : Flavour)
    (a : TypeArgument) (reads : ∀ v t, a = .type v t → inner .kept t.toJson = .ok t) :
    (TypeArgument.readerWith inner : TreeReader TypeArgument) flavour
      (TypeReference.argumentJson a) = .ok a := by
  cases a with
  | star => rfl
  | type v t =>
      exact typeBody_reads (reads v t rfl)

/-- A reference is read back from its tree by a reader that allows as many levels of
arguments as the tree nests: the induction is on the levels allowed. -/
theorem TypeReference.readerUpTo_tree (flavour : Flavour) (n : Nat) :
    ∀ t : TypeReference, t.toJson.depth ≤ n →
      (TypeReference.readerUpTo n : TreeReader TypeReference) flavour t.toJson = .ok t := by
  induction n generalizing flavour with
  | zero =>
      intro t shallow
      obtain ⟨d, b, args⟩ := t
      simp [TypeReference.toJson, Json.depth] at shallow
  | succ n inner =>
      intro t shallow
      obtain ⟨d, b, args⟩ := t
      have arguments : (TreeReader.readList (TypeArgument.readerWith (TypeReference.readerUpTo n)))
          flavour (.array (TypeReference.argumentsJson args)) = .ok args := by
        have each : ∀ a ∈ args, (TypeArgument.readerWith (TypeReference.readerUpTo n) :
            TreeReader TypeArgument) flavour (TypeReference.argumentJson a) = .ok a := by
          intro a member
          refine TypeArgument.reads_tree flavour a fun v t same => inner .kept t ?_
          have := TypeReference.depth_argument (d := d) (n := b) (same ▸ member)
          omega
        show (TypeReference.argumentsJson args).mapM _ = _
        rw [TypeReference.argumentsJson_eq_map]
        clear shallow
        induction args with
        | nil => rfl
        | cons a rest later =>
            simp only [List.mem_cons, forall_eq_or_imp] at each
            simp only [List.map_cons, List.mapM_cons, each.1, later each.2]
            rfl
      rw [TypeReference.readerUpTo, referenceRecord, TypeReference.toJson, readRecord_tree,
        TreeReader.members_draftField rfl rfl (Declaration.reads_tree flavour d),
        TreeReader.members_draftField rfl rfl rfl, TreeReader.members_draftField rfl rfl arguments]
      rfl

/-! ## Reading the text, record by record -/

section Text

open Reader

variable {α γ : Type} {bound : Nat}

/-- A member read by a field of a record draft: the field's reader decodes the value, and the
draft stores it and marks the key. -/
theorem Json.Reader.MembersDecode.draftField {fields : List (Field Reader (Draft α))} {name : String}
    {required : Bool} {read : Reader γ} {store : α → γ → α} {j : Json} {v : γ} {a : α}
    {seen : List String} {ms : List (String × Json)} {final : Draft α}
    (found : fields.find? (·.name == name) = some (draftField name required read store))
    (fresh : seen.contains name = false) (reads : DecodesWithin bound read j v)
    (later : MembersDecode bound fields ms (store a v, name :: seen) final) :
    MembersDecode bound fields ((name, j) :: ms) (a, seen) final :=
  .cons found fresh reads.map later

theorem finishDraft_complete {required : List String} {d : Draft α}
    (complete : ∀ n ∈ required, n ∈ d.2) : finishDraft required d = .ok d.1 := by
  have none : required.find? (fun n => !d.2.contains n) = none := by
    rw [List.find?_eq_none]
    intro n member
    simpa using complete n member
  simp only [finishDraft, none]

/-- A record is read back from an object whose members its fields decode in turn, once every
required key has been read. -/
theorem draftRecord_decodes {expecting : String} {start final : α}
    {fields : List (Field Reader (Draft α))} {ms : List (String × Json)} {seen : List String}
    (decoded : MembersDecode bound fields ms (start, []) (final, seen))
    (complete : ∀ n ∈ (fields.filter (·.required)).map (·.name), n ∈ seen) :
    DecodesWithin bound (readRecord expecting start fields : Reader α) (.object ms) final :=
  Reader.readRecord_decodes decoded (finishDraft_complete complete)

/-- An array written element by element is read back by a reader of the elements. -/
theorem readList_map {inner : Reader α} {write : α → Json} {xs : List α}
    (decoded : ∀ x ∈ xs, DecodesWithin bound inner (write x) x) (plain : ∀ x ∈ xs, (write x).Plain) :
    DecodesWithin bound (readList inner) (.array (xs.map write)) xs := by
  have pairs := readList_decodes (xs.map fun x => (write x, x)) (by simpa using decoded)
    (by simpa using plain)
  simpa [Function.comp_def] using pairs

theorem plain_array_map {write : α → Json} (plain : ∀ x, (write x).Plain) (xs : List α) :
    (Json.array (xs.map write)).Plain :=
  .array (by simpa using fun x _ => plain x)

theorem Variance.decodes (v : Variance) : Decodes Variance.reader (.string v.word) v := by
  apply readVariant_decodes
  cases v <;> rfl

theorem DeclarationKind.decodes (k : DeclarationKind) :
    Decodes DeclarationKind.reader (.string k.word) k := by
  apply readVariant_decodes
  cases k <;> rfl

theorem Modality.decodes (m : Modality) : Decodes Modality.reader (.string m.word) m := by
  apply readVariant_decodes
  cases m <;> rfl

theorem optionalString_decodes (q : Option String) :
    Decodes (readOptional readString) (optionalString q) q := by
  cases q with
  | none => exact readOptional_null readString
  | some s => exact readOptional_some (readString_decodes s) (.string s) (by simp [optionalString])

theorem Declaration.decodes (d : Declaration) : Decodes Declaration.reader d.toJson d := by
  obtain ⟨s, q, k⟩ := d
  unfold Declaration.reader Declaration.toJson
  exact draftRecord_decodes
    (.draftField rfl rfl (readString_decodes s) <|
      .draftField rfl rfl (optionalString_decodes q) <|
      .draftField rfl rfl (DeclarationKind.decodes k) (.nil _))
    (by decide)

theorem TypeReference.plain_argumentJson (a : TypeArgument) : (TypeReference.argumentJson a).Plain :=
  TypeReference.plain_argumentsJson [a] _ (by simp [TypeReference.argumentsJson])

/-- A generic argument is read back from its text: its members are kept as trees, and the
tree of its type is read by the tree reader of references. -/
theorem TypeArgument.decodes (a : TypeArgument) :
    Decodes (TypeArgument.readerWith (TypeReference.readerUpTo nestingLimit) : Reader TypeArgument)
      (TypeReference.argumentJson a) a := by
  unfold TypeArgument.readerWith
  dsimp only [Source.tagged]
  cases a with
  | star =>
      rw [TypeReference.argumentJson]
      apply readTagged_decodes
      · rfl
      · simp
      · simp
      · intro _
        rfl
  | type v t =>
      rw [TypeReference.argumentJson]
      apply readTagged_decodes
      · rfl
      · simp
      · simp only [List.mem_cons, List.not_mem_nil, or_false, forall_eq_or_imp, forall_eq]
        exact ⟨.string _, t.plain_toJson⟩
      · intro shallow
        simp only [Json.membersDepth, Json.depth] at shallow
        exact typeBody_reads (TypeReference.readerUpTo_tree .kept nestingLimit t (by omega))

theorem TypeReference.decodes (t : TypeReference) : Decodes TypeReference.reader t.toJson t := by
  obtain ⟨d, n, args⟩ := t
  have arguments : Decodes (readList (TypeArgument.readerWith (TypeReference.readerUpTo nestingLimit)))
      (.array (TypeReference.argumentsJson args)) args := by
    rw [TypeReference.argumentsJson_eq_map]
    exact readList_map (fun a _ => TypeArgument.decodes a) (fun a _ => TypeReference.plain_argumentJson a)
  unfold TypeReference.reader
  rw [TypeReference.readerUpTo, referenceRecord, TypeReference.toJson]
  exact draftRecord_decodes
    (.draftField rfl rfl (Declaration.decodes d) <|
      .draftField rfl rfl (readBool_decodes n) <|
      .draftField rfl rfl arguments (.nil _))
    (by decide)

theorem TypeParameter.plain_toJson (p : TypeParameter) : p.toJson.Plain := by
  refine .object ?_
  simp only [List.mem_cons, List.not_mem_nil, or_false, forall_eq_or_imp, forall_eq]
  exact ⟨.string _, .string _, plain_array_map TypeReference.plain_toJson _⟩

theorem TypeParameter.decodes (p : TypeParameter) : Decodes TypeParameter.reader p.toJson p := by
  obtain ⟨name, variance, bounds⟩ := p
  unfold TypeParameter.reader TypeParameter.toJson
  exact draftRecord_decodes
    (.draftField rfl rfl (readString_decodes name) <|
      .draftField rfl rfl (Variance.decodes variance) <|
      .draftField rfl rfl (readList_map (fun t _ => t.decodes) fun t _ => t.plain_toJson) (.nil _))
    (by decide)

theorem Parameter.plain_toJson (p : Parameter) : p.toJson.Plain := by
  refine .object ?_
  simp only [List.mem_cons, List.not_mem_nil, or_false, forall_eq_or_imp, forall_eq]
  exact ⟨plain_optionalString _, p.type.plain_toJson⟩

theorem Parameter.decodes (p : Parameter) : Decodes Parameter.reader p.toJson p := by
  obtain ⟨name, type⟩ := p
  unfold Parameter.reader Parameter.toJson
  exact draftRecord_decodes
    (.draftField rfl rfl (optionalString_decodes name) <|
      .draftField rfl rfl type.decodes (.nil _))
    (by decide)

/-- An optional value is read back from its text: the value's own text, or `null`. -/
theorem readOptional_decodes {write : α → Json} {inner : Reader α} {o : Option α} {j : Json}
    (decoded : ∀ x, Decodes inner (write x) x) (plain : ∀ x, (write x).Plain)
    (notNull : ∀ x, write x ≠ .null) (written : ∀ x, o = some x → j = write x)
    (absent : o = none → j = .null) : Decodes (readOptional inner) j o := by
  cases o with
  | none =>
      rw [absent rfl]
      exact readOptional_null inner
  | some x =>
      rw [written x rfl]
      exact readOptional_some (decoded x) (plain x) (notNull x)

theorem Function.plain_toJson (f : Function) : f.toJson.Plain := by
  refine .object ?_
  simp only [List.mem_cons, List.not_mem_nil, or_false, forall_eq_or_imp, forall_eq]
  refine ⟨.string _, plain_array_map Parameter.plain_toJson _, ?_,
    plain_array_map TypeParameter.plain_toJson _, .string _, .bool _⟩
  cases f.returnType with
  | none => exact .null
  | some t => exact t.plain_toJson

theorem Function.decodes (f : Function) : Decodes Function.reader f.toJson f := by
  obtain ⟨name, parameters, returnType, typeParameters, modality, suspend⟩ := f
  unfold Function.reader Function.toJson
  exact draftRecord_decodes
    (.draftField rfl rfl (readString_decodes name) <|
      .draftField rfl rfl (readList_map (fun p _ => p.decodes) fun p _ => p.plain_toJson) <|
      .draftField rfl rfl (readOptional_decodes TypeReference.decodes TypeReference.plain_toJson
        (fun t => by cases t; simp [TypeReference.toJson]) (fun _ same => by subst same; rfl)
        (fun same => by subst same; rfl)) <|
      .draftField rfl rfl (readList_map (fun p _ => p.decodes) fun p _ => p.plain_toJson) <|
      .draftField rfl rfl (Modality.decodes modality) <|
      .draftField rfl rfl (readBool_decodes suspend) (.nil _))
    (by decide)

theorem Property.plain_toJson (p : Property) : p.toJson.Plain := by
  refine .object ?_
  simp only [List.mem_cons, List.not_mem_nil, or_false, forall_eq_or_imp, forall_eq]
  exact ⟨.string _, p.type.plain_toJson, .bool _, .string _⟩

theorem Property.decodes (p : Property) : Decodes Property.reader p.toJson p := by
  obtain ⟨name, type, mutable, modality⟩ := p
  unfold Property.reader Property.toJson
  exact draftRecord_decodes
    (.draftField rfl rfl (readString_decodes name) <|
      .draftField rfl rfl type.decodes <|
      .draftField rfl rfl (readBool_decodes mutable) <|
      .draftField rfl rfl (Modality.decodes modality) (.nil _))
    (by decide)

theorem TargetType.plain_toJson (t : TargetType) : t.toJson.Plain := by
  refine .object ?_
  simp only [List.mem_cons, List.not_mem_nil, or_false, forall_eq_or_imp, forall_eq]
  refine ⟨.string _, .string _, plain_optionalString _, plain_array_map TypeParameter.plain_toJson _,
    ?_, .string _, .bool _, plain_array_map (fun s => .string s) _, plain_optionalString _,
    plain_array_map Function.plain_toJson _, plain_array_map Property.plain_toJson _⟩
  cases t.primaryConstructor with
  | none => exact .null
  | some ps => exact plain_array_map Parameter.plain_toJson ps

theorem TargetType.decodes (t : TargetType) : Decodes TargetType.reader t.toJson t := by
  obtain ⟨package, simpleName, qualifiedName, typeParameters, primaryConstructor, modality, isLocal,
    annotations, containingFile, functions, properties⟩ := t
  have parameters : ∀ ps : List Parameter, Decodes (readList Parameter.reader)
      (.array (ps.map Parameter.toJson)) ps :=
    fun ps => readList_map (fun p _ => p.decodes) fun p _ => p.plain_toJson
  unfold TargetType.reader TargetType.toJson
  exact draftRecord_decodes
    (.draftField rfl rfl (readString_decodes package) <|
      .draftField rfl rfl (readString_decodes simpleName) <|
      .draftField rfl rfl (optionalString_decodes qualifiedName) <|
      .draftField rfl rfl (readList_map (fun p _ => p.decodes) fun p _ => p.plain_toJson) <|
      .draftField rfl rfl (readOptional_decodes parameters (plain_array_map Parameter.plain_toJson)
        (fun _ => by simp) (fun _ same => by subst same; rfl) (fun same => by subst same; rfl)) <|
      .draftField rfl rfl (Modality.decodes modality) <|
      .draftField rfl rfl (readBool_decodes isLocal) <|
      .draftField rfl rfl (readList_map (fun s _ => readString_decodes s) fun s _ => .string s) <|
      .draftField rfl rfl (optionalString_decodes containingFile) <|
      .draftField rfl rfl (readList_map (fun f _ => f.decodes) fun f _ => f.plain_toJson) <|
      .draftField rfl rfl (readList_map (fun p _ => p.decodes) fun p _ => p.plain_toJson) (.nil _))
    (by decide)

theorem ModelFile.decodes (m : ModelFile) : Decodes ModelFile.reader m.toJson m := by
  obtain ⟨rounds⟩ := m
  have round : ∀ targets : List TargetType, Decodes (readList TargetType.reader)
      (.array (targets.map TargetType.toJson)) targets :=
    fun targets => readList_map (fun t _ => t.decodes) fun t _ => t.plain_toJson
  unfold ModelFile.reader ModelFile.toJson
  exact draftRecord_decodes
    (.draftField rfl rfl (readList_map (fun targets _ => round targets)
      fun targets _ => plain_array_map TargetType.plain_toJson targets) (.nil _))
    (by decide)

theorem GeneratorOptions.decodes (o : GeneratorOptions) (fits : o.indentWidth ≤ wordMax) :
    Decodes GeneratorOptions.reader o.toJson o := by
  obtain ⟨runtimePackage, marker, mockSuffix, indentWidth, suppressions⟩ := o
  unfold GeneratorOptions.reader GeneratorOptions.toJson
  exact draftRecord_decodes
    (.draftField rfl rfl (readString_decodes runtimePackage) <|
      .draftField rfl rfl (readString_decodes marker) <|
      .draftField rfl rfl (readString_decodes mockSuffix) <|
      .draftField rfl rfl (readCount_decodes fits) <|
      .draftField rfl rfl (readList_map (fun s _ => readString_decodes s) fun s _ => .string s) (.nil _))
    (by decide)

/-! ## Whole texts -/

theorem Json.Reader.finishText_nil {c : Cursor} (h : c.rest = []) : finishText c = .ok () c := by
  rw [finishText, peekToken_nil h]
  rfl

/-- A whole text written from a value is read back when it nests less deeply than the nesting
limit, and refused at the limit otherwise. -/
theorem readText_compact {α : Type} {r : Reader α} {j : Json} {v : α} (decoded : Decodes r j v) :
    (j.depth < nestingLimit → readText r (compact j) = .ok v) ∧
    (nestingLimit ≤ j.depth → ∃ e, readText r (compact j) = .error e ∧
      e.problem = .malformed .recursionLimitExceeded) := by
  have atStart := decoded (Cursor.start (compact j)) [] (by simp [Cursor.start]) trivial
    (show 0 < nestingLimit by decide) (Nat.le_refl _)
  constructor
  · intro shallow
    unfold readText
    rw [EStateM.run, bind_of_ok (atStart.1 shallow), bind_of_ok (finishText_nil rfl)]
    rfl
  · intro deep
    obtain ⟨e, c', failed, limit⟩ := atStart.2 deep
    refine ⟨e, ?_, limit⟩
    unfold readText
    rw [EStateM.run, bind_of_error failed]

theorem Json.itemsDepth_map_string (xs : List String) : Json.itemsDepth (xs.map Json.string) = 0 := by
  induction xs with
  | nil => rfl
  | cons x xs flat => simp [Json.itemsDepth, Json.depth, flat]

/-- The text of options nests two levels: the object, and the array of suppressions. -/
theorem GeneratorOptions.depth_toJson (o : GeneratorOptions) : o.toJson.depth ≤ 2 := by
  simp [GeneratorOptions.toJson, Json.depth, Json.membersDepth, Json.ofNat, Json.itemsDepth_map_string]

/-- A model survives being written as compact JSON text and read back exactly when its text
nests less deeply than the nesting limit of 128 levels; deeper texts are refused at the limit.
Options always survive, their indentation width being a machine word. -/
theorem written_model_and_options_read_back (m : ModelFile) (o : GeneratorOptions)
    (fits : o.indentWidth ≤ Reader.wordMax) :
    (m.toJson.depth < nestingLimit → ModelFile.ofText (compact m.toJson) = .ok m) ∧
    (nestingLimit ≤ m.toJson.depth → ∃ e, ModelFile.ofText (compact m.toJson) = .error e ∧
      e.problem = .malformed .recursionLimitExceeded) ∧
    GeneratorOptions.ofText (compact o.toJson) = .ok o := by
  have model := readText_compact (ModelFile.decodes m)
  have options := (readText_compact (GeneratorOptions.decodes o fits)).1
    (Nat.lt_of_le_of_lt o.depth_toJson (by decide))
  exact ⟨model.1, model.2, options⟩

end Text

/-! ## Texts at the nesting limit -/

/-- `List<List<…<String>…>>`, with `n` levels of `List`. -/
def nestedLists : Nat → TypeReference
  | 0 => .mk { simpleName := "String", qualifiedName := some "kotlin.String", kind := .«class» } false []
  | n + 1 =>
    .mk { simpleName := "List", qualifiedName := some "kotlin.collections.List", kind := .«interface» }
      false [.type .invariant (nestedLists n)]

/-- A model of one target `p.Foo` with one open property of type `nestedLists n`. -/
def nestedListsModel (n : Nat) : ModelFile :=
  { rounds :=
      [[{ simpleName := "Foo"
          qualifiedName := some "p.Foo"
          properties := [Property.open "x" (nestedLists n) false] }]] }

/-- Each level of `List` adds three levels to the text: the reference, its array of arguments
and the argument. -/
theorem nestedLists_depth (n : Nat) : (nestedLists n).toJson.depth = 3 * n + 2 := by
  induction n with
  | zero => rfl
  | succ n deeper =>
      simp only [nestedLists, TypeReference.toJson, TypeReference.argumentsJson,
        TypeReference.argumentJson, Declaration.toJson, optionalString, Json.depth,
        Json.membersDepth, Json.itemsDepth, deeper]
      omega

/-- The model, its rounds, the round, the target, its properties and the property lie around
the property's type. -/
theorem nestedListsModel_depth (n : Nat) : (nestedListsModel n).toJson.depth = 3 * n + 8 := by
  simp only [nestedListsModel, ModelFile.toJson, TargetType.toJson, Property.toJson, Property.open,
    List.map_cons, List.map_nil, Json.depth, Json.membersDepth, Json.itemsDepth, nestedLists_depth,
    optionalString]
  omega

/-- Forty levels of `List` make a model text 128 levels deep, which is refused at the
nesting limit rather than read back. -/
theorem forty_nested_lists_refused :
    ∃ e, ModelFile.ofText (compact (nestedListsModel 40).toJson) = .error e ∧
      e.problem = .malformed .recursionLimitExceeded :=
  (readText_compact (ModelFile.decodes _)).2 (by rw [nestedListsModel_depth]; decide)

/-- Thirty-nine levels of `List` make a text 125 levels deep, which is read back, as are the
default options. -/
theorem thirty_nine_nested_lists_read_back :
    (nestedListsModel 39).toJson.depth < nestingLimit ∧
      ({} : GeneratorOptions).indentWidth ≤ Reader.wordMax ∧
      ModelFile.ofText (compact (nestedListsModel 39).toJson) = .ok (nestedListsModel 39) ∧
      GeneratorOptions.ofText (compact ({} : GeneratorOptions).toJson) = .ok {} := by
  have shallow : (nestedListsModel 39).toJson.depth < nestingLimit := by
    rw [nestedListsModel_depth]
    decide
  have fits : ({} : GeneratorOptions).indentWidth ≤ Reader.wordMax := by
    rw [Reader.wordMax_eq]
    decide
  have readBack := written_model_and_options_read_back (nestedListsModel 39) {} fits
  exact ⟨shallow, fits, readBack.1 shallow, readBack.2.2⟩

end KotlinMocks
