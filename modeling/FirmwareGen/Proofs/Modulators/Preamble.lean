-- SUMMARY: What stands in a source in front of its functions.
import FirmwareGen.Proofs.C.Heads
import FirmwareGen.Proofs.Modulators.Lines
import Mathlib.Data.List.Basic
/-!
# Preambles of generated sources

In front of its functions a source includes its header and gives each driver a configuration object.
-/

namespace FirmwareGen.Modulators

open C Text

section Source

variable {base stamp : String} {plans : List DriverPlan}

/-- The items of a source in front of its functions. -/
def sourceFront (base stamp : String) (plans : List DriverPlan) : Listing :=
  banner base "Source" stamp ++ [.ownInclude (base ++ ".h"), .systemInclude "math.h", .blank] ++
  ([.comment "Static helper functions"] ++ plans.flatMap DriverPlan.helperDeclarations ++ [.blank]) ++
  plans.flatMap DriverPlan.configInstance

theorem source_eq :
    source base stamp plans = sourceFront base stamp plans ++ plans.flatMap DriverPlan.initFunction ++
      plans.flatMap DriverPlan.controlFunctions ++ plans.flatMap DriverPlan.interruptHandlers := by
  simp only [source, sourceFront, sourceSections, List.append_assoc]

/-- In front of the functions there are comments, directives, helpers and objects. -/
theorem begins_or_closes_sourceFront {c : Char} (h : c ∉ ['/', ' ', '#', 's']) :
    ∀ line ∈ Listing.lines layout (sourceFront base stamp plans),
      line.toList.head? ≠ some c ∨ ∃ text, line = text ++ "\x7d;" := by
  have hitems : ∀ item ∈ sourceFront base stamp plans,
      c ∉ item.heads ∨ ∃ text, item.lines layout = [text ++ "\x7d;"] := by
    simp only [List.mem_cons, List.not_mem_nil, or_false, not_or] at h
    obtain ⟨hslash, hblank, hsharp, hstatic⟩ := h
    simp only [sourceFront, List.forall_mem_append]
    refine ⟨⟨⟨?_, ?_⟩, ⟨?_, ?_⟩, ?_⟩, ?_⟩
    · simp [banner, Item.heads, hslash, hblank]
    · simp [Item.heads, hsharp]
    · simp [Item.heads, hslash]
    · exact List.forall_mem_flatMap.2 fun plan _ => by
        simp [DriverPlan.helperDeclarations, DriverPlan.helperSignature, Item.heads,
          Signature.heads, hstatic]
    · simp [Item.heads]
    · refine List.forall_mem_flatMap.2 fun plan _ => ?_
      simp only [DriverPlan.configInstance, List.forall_mem_cons]
      exact ⟨.inl (by simp [Item.heads, hslash]), .inr ⟨_, rfl⟩, .inl (by simp [Item.heads]),
        List.forall_mem_nil _⟩
  intro line hline
  obtain ⟨item, hitem, hmem⟩ := List.mem_flatMap.1 hline
  rcases hitems item hitem with hheads | ⟨text, hlines⟩
  · exact .inl fun hhead => hheads (begins_item layout item line hmem c hhead)
  · rw [hlines, List.mem_singleton] at hmem
    exact .inr ⟨text, hmem⟩

/-- Functions begin with comments, attributes, linkages and results. -/
theorem heads_functions {c : Char} (h : c ∉ ['/', ' ', '_', 'v', 's', '\x7b', '\x7d']) :
    ∀ item ∈ plans.flatMap DriverPlan.initFunction ++ (plans.flatMap DriverPlan.controlFunctions ++
      plans.flatMap DriverPlan.interruptHandlers), c ∉ item.heads := by
  simp only [List.mem_cons, List.not_mem_nil, or_false, not_or] at h
  obtain ⟨hslash, hblank, hattribute, hvoid, hstatic, hopen, hclose⟩ := h
  have hcontrollers : ∀ plan : DriverPlan, ∀ item ∈ plan.isrPhases.flatMap plan.controllerFunction,
      c ∉ item.heads := fun plan => List.forall_mem_flatMap.2 fun phase _ => by
    simp [DriverPlan.controllerFunction, DriverPlan.controllerSignature, Item.heads, Signature.heads,
      hslash, hblank, hattribute, hvoid, hopen, hclose]
  simp only [List.forall_mem_append]
  refine ⟨List.forall_mem_flatMap.2 fun plan _ => ?_, List.forall_mem_flatMap.2 fun plan _ => ?_,
    List.forall_mem_flatMap.2 fun plan _ => ?_⟩
  · simp [DriverPlan.initFunction, DriverPlan.signature, Item.heads, Signature.heads, hslash, hblank,
      hvoid, hopen, hclose]
  · simp [DriverPlan.controlFunctions, DriverPlan.deadtimeFunction, DriverPlan.setDutySignature,
      DriverPlan.signature, Item.heads, Signature.heads, hslash, hblank, hvoid, hopen, hclose]
  · simp only [DriverPlan.interruptHandlers, List.forall_mem_append]
    refine ⟨⟨?_, hcontrollers plan⟩, ?_⟩ <;>
      simp [DriverPlan.helperSignature, Item.heads, Signature.heads, hslash, hblank, hstatic, hopen,
        hclose]

/-! ## Inclusions -/

theorem include_of_head (line : String) (h : line.toList.head? ≠ some '#') :
    between? "#include \"" "\"" line = none :=
  between?_of_head (by simp) "\"" line h

theorem scan_sourceIncludes (file : String) :
    scan layout (between? "#include \"" "\"")
      [.ownInclude file, .systemInclude "math.h", .blank] = [file] := by
  have hsystem : between? "#include \"" "\"" ("#include <" ++ "math.h" ++ ">") = none := by
    rw [String.append_assoc]
    exact between?_ofList_append rfl rfl _ _
  have hblank : between? "#include \"" "\"" "" = none := include_of_head "" (by simp)
  simp only [scan, Item.lines, List.flatMap_cons, List.flatMap_nil, List.filterMap_cons,
    List.filterMap_nil, between?_append, hsystem, hblank, List.append_nil]

/-- The type of a configuration may begin with any character, but its object ends in no quote. -/
theorem include_configInstance (plan : DriverPlan) :
    scan layout (between? "#include \"" "\"") plan.configInstance = [] := by
  have hobject : (Item.lines layout (.object plan.configType plan.configObject "Kp"
      (.literal "1.0f"))).filterMap (between? "#include \"" "\"") = [] :=
    List.filterMap_cons_none (between?_of_endsWith (endsWith_append_eq_false
      ((endsWith_ofList _ _).trans rfl) ((endsWith_ofList _ _).trans rfl) _))
  have hcomment : ∀ text, (Item.lines layout (.comment text)).filterMap
      (between? "#include \"" "\"") = [] :=
    fun text => filterMap_item_eq_nil include_of_head (by simp [Item.heads])
  have hblank : (Item.lines layout .blank).filterMap (between? "#include \"" "\"") = [] :=
    filterMap_item_eq_nil include_of_head (by simp [Item.heads])
  simp only [DriverPlan.configInstance, scan_cons, scan_nil, hcomment, hobject, hblank,
    List.append_nil]

/-- A source includes one file of its own. -/
theorem included_source :
    (Listing.lines layout (source base stamp plans)).filterMap (between? "#include \"" "\"") =
      [base ++ ".h"] := by
  have hnil : ∀ {listing : Listing}, (∀ item ∈ listing, '#' ∉ item.heads) →
      scan layout (between? "#include \"" "\"") listing = [] :=
    fun h => scan_eq_nil include_of_head h
  have hinstances : scan layout (between? "#include \"" "\"")
      (plans.flatMap DriverPlan.configInstance) = [] := by
    simp only [scan_flatMap, include_configInstance, flatMap_none]
  have hhelpers : scan layout (between? "#include \"" "\"") ([.comment "Static helper functions"] ++
      plans.flatMap DriverPlan.helperDeclarations ++ [.blank]) = [] := by
    refine hnil ?_
    simp only [List.forall_mem_append, List.forall_mem_cons]
    refine ⟨⟨⟨by simp [Item.heads], List.forall_mem_nil _⟩, List.forall_mem_flatMap.2 fun plan _ => ?_⟩,
      by simp [Item.heads], List.forall_mem_nil _⟩
    simp [DriverPlan.helperDeclarations, DriverPlan.helperSignature, Item.heads, Signature.heads]
  have hbanner : scan layout (between? "#include \"" "\"") (banner base "Source" stamp) = [] :=
    hnil (by simp [banner, Item.heads])
  have hfront : scan layout (between? "#include \"" "\"") (sourceFront base stamp plans) =
      [base ++ ".h"] := by
    rw [sourceFront, scan_append, scan_append, scan_append, hbanner, scan_sourceIncludes, hhelpers,
      hinstances]
    rfl
  rw [filterMap_lines, source_eq, List.append_assoc, List.append_assoc, scan_append, hfront,
    hnil (heads_functions (by decide)), List.append_nil]

/-! ## Configuration objects -/

/-- What a line gives an initial value, with its type in front; lines of bodies are indented. -/
def configured? (line : String) : Option String :=
  if line.toList.head? = some ' ' then none else between? "" " = \x7b.Kp = 1.0f\x7d;" line

theorem configured?_of_endsWith {line : String}
    (h : endsWith " = \x7b.Kp = 1.0f\x7d;" line = false) : configured? line = none := by
  rw [configured?, between?_of_endsWith h]
  split <;> rfl

theorem configured?_append {last : String}
    (h : endsWith " = \x7b.Kp = 1.0f\x7d;" last = false)
    (h' : endsWith last " = \x7b.Kp = 1.0f\x7d;" = false) (text : String) :
    configured? (text ++ last) = none :=
  configured?_of_endsWith (endsWith_append_eq_false h h' text)

theorem configured?_indented {line : String} (h : Indented line) : configured? line = none := by
  cases hhead : line.toList.head? with
  | none =>
    have hempty : line = "" := String.toList_eq_nil_iff.1 (List.head?_eq_none_iff.1 hhead)
    rw [hempty]
    exact configured?_of_endsWith (by decide)
  | some c =>
    rw [configured?, hhead, h c hhead, if_pos rfl]

theorem configured_definition (signature : Signature) (body : List Statement) :
    (Item.lines layout (.definition signature body)).filterMap configured? = [] := by
  have hattributes : configured? interruptAttributes = none :=
    configured?_of_endsWith ((endsWith_ofList _ _).trans rfl)
  have hparenthesis : ∀ text, configured? (text ++ ")") = none :=
    configured?_append ((endsWith_ofList _ _).trans rfl) ((endsWith_ofList _ _).trans rfl)
  have hhead : configured? signature.headLine = none := by
    cases signature with
    | function linkage result name parameters => exact hparenthesis _
    | handler name => exact hparenthesis _
  have hopen : configured? "\x7b" = none := configured?_of_endsWith ((endsWith_ofList _ _).trans rfl)
  have hclose : configured? "\x7d" = none := configured?_of_endsWith ((endsWith_ofList _ _).trans rfl)
  rw [List.filterMap_eq_nil_iff]
  exact Item.forall_lines_definition.2 ⟨signature.forall_attributeLines hattributes, hhead, hopen,
    fun statement _ line hline => configured?_indented (indented_statement layout statement line hline),
    hclose⟩

theorem configured_comment (text : String) :
    (Item.lines layout (.comment text)).filterMap configured? = [] :=
  List.filterMap_cons_none (configured?_append ((endsWith_ofList _ _).trans rfl)
    ((endsWith_ofList _ _).trans rfl) _)

theorem configured_blank : (Item.lines layout .blank).filterMap configured? = [] :=
  List.filterMap_cons_none (configured?_of_endsWith (by decide))

theorem configured_banner (texts : List String) :
    (Item.lines layout (.banner texts)).filterMap configured? = [] := by
  have hopen : configured? "/*" = none := configured?_of_endsWith ((endsWith_ofList _ _).trans rfl)
  have hclose : configured? " */" = none := configured?_of_endsWith ((endsWith_ofList _ _).trans rfl)
  rw [List.filterMap_eq_nil_iff]
  refine Item.forall_lines_banner.2 ⟨hopen, fun text _ => ?_, hclose⟩
  exact configured?_indented fun c hc => by simpa [eq_comm] using hc

theorem configured_prototype (plan : DriverPlan) (action : String) (parameters : List Parameter) :
    (Item.lines layout (.prototype (plan.helperSignature action parameters))).filterMap
      configured? = [] := by
  have hline : (plan.helperSignature action parameters).prototypeLine =
      "static inline void " ++ plan.function action ++ "(" ++ printParameters parameters ++
        ");" := by
    simp [DriverPlan.helperSignature, Signature.prototypeLine, Signature.headLine, ← String.toList_inj]
  have hnone : configured? (plan.helperSignature action parameters).prototypeLine = none := by
    rw [hline]
    exact configured?_append ((endsWith_ofList _ _).trans rfl) ((endsWith_ofList _ _).trans rfl) _
  exact List.filterMap_cons_none hnone

theorem configured_includes (file : String) :
    scan layout configured? [.ownInclude file, .systemInclude "math.h", .blank] = [] := by
  have hown : configured? ("#include \"" ++ file ++ "\"") = none :=
    configured?_append ((endsWith_ofList _ _).trans rfl) ((endsWith_ofList _ _).trans rfl) _
  have hsystem : configured? ("#include <" ++ "math.h" ++ ">") = none :=
    configured?_append ((endsWith_ofList _ _).trans rfl) ((endsWith_ofList _ _).trans rfl) _
  have hblank : configured? "" = none := configured?_of_endsWith (by decide)
  simp only [scan, Item.lines, List.flatMap_cons, List.flatMap_nil, List.filterMap_cons_none hown,
    List.filterMap_cons_none hsystem, List.filterMap_cons_none hblank, List.filterMap_nil,
    List.append_nil]

/-- A driver has one configuration object. -/
theorem configured_instance {plan : DriverPlan} (h : plan.Tidy) :
    scan layout configured? plan.configInstance = [plan.configType ++ " " ++ plan.configObject] := by
  have hline : Item.lines layout (.object plan.configType plan.configObject "Kp" (.literal "1.0f")) =
      [plan.configType ++ " " ++ plan.configObject ++ " = \x7b.Kp = 1.0f\x7d;"] := by
    simp [Item.lines, Expr.print, ← String.toList_inj]
  have hread : configured? (plan.configType ++ " " ++ plan.configObject ++
      " = \x7b.Kp = 1.0f\x7d;") = some (plan.configType ++ " " ++ plan.configObject) := by
    have hhead : (plan.configType ++ " " ++ plan.configObject ++
        " = \x7b.Kp = 1.0f\x7d;").toList.head? ≠ some ' ' := by
      intro hblank
      cases hstem : plan.stem.toList with
      | nil => simp [DriverPlan.configType, hstem] at hblank
      | cons c rest =>
        have hc := h.stem_plain c (by rw [hstem]; exact List.mem_cons_self)
        simp only [DriverPlan.configType, String.toList_append, hstem, List.cons_append,
          List.head?_cons, Option.some.injEq] at hblank
        rw [hblank] at hc
        exact absurd hc (by decide)
    have hbetween := between?_append "" (plan.configType ++ " " ++ plan.configObject)
      " = \x7b.Kp = 1.0f\x7d;"
    rw [configured?, if_neg hhead, ← hbetween, String.empty_append]
  simp only [DriverPlan.configInstance, scan_cons, scan_nil, configured_comment, configured_blank,
    hline, List.filterMap_cons_some hread, List.filterMap_nil, List.nil_append, List.append_nil]

/-- The configuration objects of a source are those of its drivers. -/
theorem configured_source (h : ∀ plan ∈ plans, plan.Tidy) :
    (Listing.lines layout (source base stamp plans)).filterMap configured? =
      plans.map fun plan => plan.configType ++ " " ++ plan.configObject := by
  have hbanner : scan layout configured? (banner base "Source" stamp) = [] := by
    simp only [banner, scan_cons, scan_nil, configured_banner, configured_blank, List.append_nil]
  have hhelpers : scan layout configured? ([.comment "Static helper functions"] ++
      plans.flatMap DriverPlan.helperDeclarations ++ [.blank]) = [] := by
    simp only [scan_append, scan_flatMap, scan_cons, scan_nil, DriverPlan.helperDeclarations,
      configured_comment, configured_prototype, configured_blank, List.append_nil, flatMap_none]
  have hinstances : scan layout configured? (plans.flatMap DriverPlan.configInstance) =
      plans.map fun plan => plan.configType ++ " " ++ plan.configObject := by
    rw [scan_flatMap, List.map_eq_flatMap]
    exact List.flatMap_congr fun plan hplan => configured_instance (h plan hplan)
  have hfront : scan layout configured? (sourceFront base stamp plans) =
      plans.map fun plan => plan.configType ++ " " ++ plan.configObject := by
    rw [sourceFront, scan_append, scan_append, scan_append, hbanner, hhelpers, hinstances,
      configured_includes]
    rfl
  rw [filterMap_lines, source_eq, scan_append, scan_append, scan_append, hfront]
  simp only [scan_flatMap, DriverPlan.initFunction, DriverPlan.controlFunctions,
    DriverPlan.deadtimeFunction, DriverPlan.interruptHandlers, DriverPlan.controllerFunction,
    scan_append, scan_cons, scan_nil, configured_banner, configured_definition, configured_blank,
    flatMap_none, List.append_nil]

end Source

end FirmwareGen.Modulators
