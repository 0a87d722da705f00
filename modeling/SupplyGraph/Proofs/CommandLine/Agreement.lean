import Mathlib.Data.String.Basic
import SupplyGraph.CommandLine.Report
import SupplyGraph.Proofs.Chain.Printing
import SupplyGraph.Proofs.Compile.Conservation
import SupplyGraph.Proofs.Template.RoundTrip

/-!
Agreement of the commands. Arguments that one command accepts are accepted by all of them, and what
the commands answer about one file fits together: they fail for the same reasons, and the nodes that
one of them prints are those that the others report on.
-/

namespace SupplyGraph.CommandLine

-----------------------------------------------------------------------------------------
-- Arguments
-----------------------------------------------------------------------------------------

/-- The name that a command is called by. -/
def Command.name : Command → String
  | nodes => "nodes"
  | validate => "validate"
  | compile => "compile"

/-- Every command is found by its name. -/
theorem Command.ofName?_name (command : Command)
    : ofName? command.name = some command := by
  cases command <;> rfl

theorem Command.eq_name_of_ofName? {name : String} {command : Command}
    (h : ofName? name = some command)
    : name = command.name := by
  unfold ofName? at h
  split at h <;> cases h <;> rfl

/-- What stands in front of a command and behind it is accepted, and names a file. -/
structure NamesFile (front back : List String) (file : String) : Prop where
  flagsInFront : ∀ argument ∈ front, isValue argument = false
  acceptedInFront
    : ∃ options, ((front.flatMap flags).map Flag.inFront).foldlM Options.take {} = .ok options
  acceptedBehind
    : ∃ options, (allFlags back).foldlM Options.take {} = .ok options ∧ options.file = some file

/-- Arguments make a request when the name of its command stands between arguments that are accepted
around it. The command makes no difference to these. -/
theorem Request.ofArguments_eq_ok_iff {arguments : List String} {request : Request}
    : Request.ofArguments arguments = .ok request
      ↔ ∃ front back,
          arguments = front ++ request.command.name :: back
          ∧ NamesFile front back request.file := by
  constructor
  · intro h
    simp only [ofArguments, bind_eq_ok_iff] at h
    obtain ⟨infront, hfront, h⟩ := h
    refine ⟨arguments.takeWhile (fun argument => !isValue argument), ?_⟩
    split at h
    · cases h
    next name rest hrest =>
      split at h
      · cases h
      · split at h
        · cases h
        next command hcommand =>
          obtain ⟨options, hbehind, h⟩ := bind_eq_ok_iff.mp h
          split at h
          · cases h
          next file hfile =>
            obtain rfl := Except.ok.inj h
            refine ⟨rest, ?_, ?_, ⟨infront, hfront⟩, options, hbehind, hfile⟩
            · rw [← Command.eq_name_of_ofName? hcommand, ← hrest, List.takeWhile_append_dropWhile]
            · intro argument hm
              simpa using List.all_eq_true.mp List.all_takeWhile argument hm
  · rintro ⟨front, back, rfl, hflags, ⟨infront, hfront⟩, options, hbehind, hfile⟩
    have hvalue : isValue request.command.name = true := by
      cases request.command <;> decide
    have hhelp : request.command.name ≠ "help" := by
      cases request.command <;> decide
    have hall : ∀ argument ∈ front, (!isValue argument) = true := by
      simpa using hflags
    simp only [ofArguments, List.takeWhile_append_of_pos hall, List.dropWhile_append_of_pos hall,
      List.takeWhile_cons, List.dropWhile_cons, hvalue, Bool.not_true, Bool.false_eq_true, if_false,
      List.append_nil, hfront, hhelp, Command.ofName?_name, hbehind, bind_eq_ok_iff]
    exact ⟨infront, rfl, options, rfl, by rw [hfile]⟩

-----------------------------------------------------------------------------------------
-- What is printed
-----------------------------------------------------------------------------------------

/-- The value whose text is printed. -/
def Outcome.printed (outcome : Outcome) : Json := outcome.output.canonical

/-- The part of the printed value that names lead to, from the outside in. -/
def Outcome.part? (outcome : Outcome) (names : List String) : Option Json :=
  outcome.printed.walk? (names.map .field)

/-- The answers say why a document is rejected, in the same words and with the same kind. -/
structure ShareRejection (answers : Command → Outcome) (error kind : String) : Prop where
  nodesError : (answers .nodes).part? ["error"] = some (.string error)
  nodesKind : (answers .nodes).part? ["kind"] = some (.string kind)
  validateError : (answers .validate).part? ["error"] = some (.string error)
  validateKind : (answers .validate).part? ["kind"] = some (.string kind)
  compileError
    : (answers .compile).part? ["error"] = some (.string ("Supply chain invalid: " ++ error))

/-- The answers are about the nodes that are printed, each with a row of templates. -/
structure ShareNodes (answers : Command → Outcome) (nodes : List (String × Json))
    (templates : List (List Json)) : Prop where
  printed : Json.read? (answers .nodes).text = some (.object nodes)
  ascending
    : (nodes.map Prod.fst).Pairwise (fun left right => Text.octets left < Text.octets right)
  entityTypes
    : (answers .validate).part? ["entityTypes"]
      = some (.array (nodes.map (fun member => .string member.1)))
  nodeMap : (answers .compile).part? ["manifest", "supplyChain", "nodeMap"] = some (.object nodes)
  rows
    : nodes.map (fun member => member.2.follow? (.field "templates"))
      = templates.map (fun row => some (.array row))
  entryCount
    : (answers .compile).part? ["manifest", "entryCount"]
      = some (Json.integer templates.flatten.length)
  fingerprint
    : (answers .compile).part? ["manifest", "fingerprint"]
      = some (.string (SupplyGraph.fingerprint (.object nodes)))

theorem part?_object {exitCode : Nat} {members : List (String × Json)} {name : String}
    {part : Json} (hd : (members.map Prod.fst).Nodup) (hpart : members.lookup name = some part)
    (names : List String)
    : (Outcome.mk exitCode (.object members)).part? (name :: names)
      = part.canonical.walk? (names.map .field) :=
  Json.walk?_canonical hd hpart _

/-- The printed manifest has the members of the manifest. -/
theorem part?_manifest {manifest : Manifest} {name : String} {part : Json}
    (hpart : manifest.toJson.follow? (.field name) = some part) (names : List String)
    : (Outcome.mk 0
        (.object [("success", .bool true), ("manifest", manifest.toJson)])).part?
          ("manifest" :: name :: names)
      = part.canonical.walk? (names.map .field) := by
  refine (part?_object (by simp) rfl _).trans ?_
  rw [Manifest.toJson] at hpart ⊢
  exact Json.walk?_canonical (by simp) hpart _

/-- All commands reject a document for the same fault. -/
theorem Command.report_rejected {document : Template.Document} {rejection : Rejection}
    (h : SupplyGraph.compile .standard document = .error rejection)
    : (∀ command : Command, (command.report document).exitCode = 2)
      ∧ ShareRejection (fun command => command.report document) rejection.message
          rejection.fault.cause.name := by
  have hmanifest : Manifest.ofDocument .standard document = .error rejection := by
    rw [Manifest.ofDocument, h]
    rfl
  constructor
  · intro command
    cases command <;> simp only [report, reportNodes, reportValidity, reportManifest, h, hmanifest]
  · constructor <;>
      simp only [report, reportNodes, reportValidity, reportManifest, h, hmanifest] <;>
      exact (part?_object (by simp) rfl []).trans rfl

/-- A document has a manifest of the chain that it compiles to. -/
theorem exists_manifest {document : Template.Document} {chain : Chain}
    (h : compile .standard document = .ok chain)
    : ∃ manifest,
        Manifest.ofDocument .standard document = .ok manifest
        ∧ manifest.chain = chain
        ∧ manifest.fingerprint = chain.fingerprint
        ∧ manifest.entryCount = document.entries.length := by
  rw [Manifest.ofDocument, h]
  exact ⟨_, rfl, rfl, rfl, rfl⟩

/-- All commands report on the nodes that a document compiles to. -/
theorem Command.report_compiled {document : Template.Document} {chain : Chain}
    (h : SupplyGraph.compile .standard document = .ok chain)
    : (∀ command : Command, (command.report document).exitCode = 0)
      ∧ ∃ nodes templates,
          ShareNodes (fun command => command.report document) nodes templates := by
  obtain ⟨manifest, hmanifest, hchain, hfingerprint, hcount⟩ := exists_manifest h
  refine ⟨?_, chain.nodes.entries.map Chain.printedMember,
    chain.nodes.entries.map (fun entry =>
      entry.2.templates.map (fun record => record.toJson.canonical)), ?_⟩
  · intro command
    cases command <;> simp only [report, reportNodes, reportValidity, reportManifest, h, hmanifest]
  · constructor
    case printed =>
      simp only [report, reportNodes, h]
      exact chain.read?_printed
    case ascending => exact chain.ascending_printed.imp Text.octets_lt
    case entityTypes =>
      simp only [report, reportValidity, h]
      refine (part?_object (by simp) rfl []).trans ?_
      rw [Json.canonical_array, Chain.entityTypes, SortedMap.keys]
      simp only [List.map_map]
      rfl
    case nodeMap =>
      simp only [report, reportManifest, hmanifest]
      refine (part?_manifest rfl _).trans ?_
      refine (Json.walk?_canonical (by simp) rfl _).trans ?_
      rw [hchain]
      exact congrArg some chain.canonical_toJson
    case rows =>
      simp only [List.map_map, Function.comp_def, Chain.templates_printedMember]
    case entryCount =>
      simp only [report, reportManifest, hmanifest]
      refine (part?_manifest rfl _).trans ?_
      rw [hcount, ← length_records_of_compile h, Chain.records, Chain.nodeList,
        List.flatMap_map]
      simp only [List.length_flatMap, List.length_flatten, List.map_map, Function.comp_def,
        List.length_map]
      rfl
    case fingerprint =>
      simp only [report, reportManifest, hmanifest]
      refine (part?_manifest rfl _).trans ?_
      rw [Chain.fingerprint_printed, hfingerprint]
      rfl

-----------------------------------------------------------------------------------------
-- Names of files
-----------------------------------------------------------------------------------------

/-- A separator that does not come any more ends the search with the whole text, by induction on the
characters that are still to be searched. -/
theorem splitOnAux_of_not_mem {separator : Char} (front back : List Char) (h : separator ∉ back)
    : String.splitOnAux (String.ofList (front ++ back)) (String.singleton separator) 0
          ⟨String.utf8Len front⟩ 0 []
      = [String.ofList (front ++ back)] := by
  induction back generalizing front with
  | nil =>
      have hend
          : String.Pos.Raw.atEnd (String.ofList (front ++ [])) ⟨String.utf8Len front⟩ = true := by
        simp
      rw [String.splitOnAux, if_pos hend]
      simpa using String.extract_of_valid [] front []
  | cons first rest ih =>
      have hmore
          : ¬ String.Pos.Raw.atEnd (String.ofList (front ++ first :: rest))
                ⟨String.utf8Len front⟩ = true := by
        rw [String.atEnd_iff, String.rawEndPos_ofList, String.Pos.Raw.mk_le_mk,
          String.utf8Len_append, String.utf8Len_cons]
        have := Char.utf8Size_pos first
        omega
      have hseparator : String.Pos.Raw.get (String.singleton separator) 0 = separator :=
        String.get_of_valid [] [separator]
      have hne : ¬ (first == separator) = true :=
        fun heq => h (by simp [beq_iff_eq.mp heq])
      have hstart
          : (⟨String.utf8Len front⟩ : String.Pos.Raw).unoffsetBy 0 = ⟨String.utf8Len front⟩ := rfl
      have hrest := ih (front ++ [first]) (fun hm => h (List.mem_cons_of_mem _ hm))
      rw [String.splitOnAux, if_neg hmore, String.get_of_valid front (first :: rest),
        List.headD_cons, hseparator, if_neg hne, hstart, String.next_of_valid front first rest]
      simpa [-String.ofList_append] using hrest

/-- A text without the separator is its own only part. -/
theorem splitOn_of_not_mem {text : String} {separator : Char} (h : separator ∉ text.toList)
    : text.splitOn (String.singleton separator) = [text] := by
  have hne : ¬ (String.singleton separator == "") = true := by simp
  rw [String.splitOn, if_neg hne]
  simpa using splitOnAux_of_not_mem [] text.toList h

/-- A path of one part that leads to a file is the name of the file. -/
theorem fileName?_of_not_mem {path : String} (h : '/' ∉ path.toList)
    (hname : path ∉ ["", ".", ".."])
    : fileName? path = some path := by
  have hparts : path.splitOn "/" = [path] := splitOn_of_not_mem h
  simp only [List.mem_cons, List.not_mem_nil, or_false, not_or] at hname
  rw [fileName?, hparts]
  simp [hname]

-----------------------------------------------------------------------------------------
-- The answers to one file
-----------------------------------------------------------------------------------------

/-- The document in a file; none if the file cannot be read or its text cannot be decoded. -/
def document? (read : String → Except ReadFailure String) (file : String)
    : Option Template.Document :=
  (read file).toOption.bind (formatOf file).read?

/-- What arguments come to where the files have been read. -/
def run (read : String → Except ReadFailure String) (arguments : List String)
    : Except Stop Outcome :=
  (Request.ofArguments arguments).map (fun request => request.answer (read request.file))

/-- The answers to one file fit together, given the document in the file. -/
structure Agree (document : Option Template.Document) (answers : Command → Outcome) : Prop where
  exitCode : ∀ command other, (answers command).exitCode = (answers other).exitCode
  failed : ∀ command, (answers command).exitCode = 1 ↔ document = none
  rejected
    : ∀ command,
        (answers command).exitCode = 2
        ↔ ∃ present rejection,
            document = some present ∧ compile .standard present = .error rejection
  otherwise
    : ∀ command,
        (answers command).exitCode ≠ 1
        → (answers command).exitCode ≠ 2
        → (answers command).exitCode = 0
  failure : (answers .nodes).exitCode = 1 → ∀ command other, answers command = answers other
  rejection
    : (answers .nodes).exitCode = 2 → ∃ error kind, ShareRejection answers error kind
  success
    : (answers .nodes).exitCode = 0 → ∃ nodes templates, ShareNodes answers nodes templates

section Answers

variable {read : String → Except ReadFailure String} {file : String}

/-- A document is loaded exactly if the file can be read and its text is one of a document. -/
theorem toOption_loadDocument
    : (loadDocument file (read file)).toOption = document? read file := by
  rw [document?]
  cases read file with
  | error failure => rfl
  | ok text =>
      change _ = (formatOf file).read? text
      simp only [loadDocument]
      cases (formatOf file).read? text <;> rfl

/-- Without a document all commands answer the same. -/
theorem exists_answer_of_document?_eq_none (h : document? read file = none)
    : ∃ outcome,
        outcome.exitCode = 1
        ∧ ∀ command, Request.answer ⟨command, file⟩ (read file) = outcome := by
  cases hload : loadDocument file (read file) with
  | ok document =>
      rw [← toOption_loadDocument, hload] at h
      cases h
  | error message =>
      refine ⟨⟨1, .object [("error", .string message)]⟩, rfl, fun command => ?_⟩
      simp only [Request.answer, hload]

/-- Once the document is loaded, what is answered is up to the command. -/
theorem answer_of_document?_eq_some {document : Template.Document}
    (h : document? read file = some document) (command : Command)
    : Request.answer ⟨command, file⟩ (read file) = command.report document := by
  rw [← toOption_loadDocument, toOption_eq_some_iff] at h
  simp only [Request.answer, h]

/-- A file with the JSON text of a document holds the document. -/
theorem document?_of_render {document : Template.Document} (hformat : formatOf file = .json)
    (hread : read file = .ok document.toJson.render)
    (hdepth : document.toJson.depth ≤ Json.depthLimit)
    : document? read file = some document := by
  rw [document?, hread, hformat]
  exact (Template.Document.ofJsonText?_render document).1.trans (if_pos hdepth)

end Answers

/-- The answers to a file fit together. There are three ways: the file holds no document, or one
that is rejected, or one that compiles. -/
theorem agree_answer (read : String → Except ReadFailure String) (file : String)
    : Agree (document? read file) (fun command => Request.answer ⟨command, file⟩ (read file)) := by
  cases hdocument : document? read file with
  | none =>
      obtain ⟨outcome, hcode, hanswer⟩ := exists_answer_of_document?_eq_none hdocument
      constructor <;> simp [hanswer, hcode]
  | some document =>
      simp only [answer_of_document?_eq_some hdocument]
      cases hcompile : compile .standard document with
      | error rejection =>
          obtain ⟨hcode, hshare⟩ := Command.report_rejected hcompile
          constructor
          case rejection => exact fun _ => ⟨_, _, hshare⟩
          all_goals simp [hcode, hcompile]
      | ok chain =>
          obtain ⟨hcode, hshare⟩ := Command.report_compiled hcompile
          constructor
          case success => exact fun _ => hshare
          all_goals simp [hcode, hcompile]

/-- Arguments that are accepted with one command behind the flags in front are accepted with every
other command in its place, and the answers of the commands to the file that the arguments name fit
together. -/
theorem commands_agree {arguments : List String} {request : Request}
    (h : Request.ofArguments arguments = .ok request) (read : String → Except ReadFailure String)
    : ∃ front back answers,
        arguments = front ++ request.command.name :: back
        ∧ (∀ argument ∈ front, isValue argument = false)
        ∧ (∀ command : Command, run read (front ++ command.name :: back) = .ok (answers command))
        ∧ Agree (document? read request.file) answers := by
  obtain ⟨front, back, harguments, hfile⟩ := Request.ofArguments_eq_ok_iff.mp h
  refine ⟨front, back, _, harguments, hfile.flagsInFront, fun command => ?_,
    agree_answer read request.file⟩
  have haccepted
      : Request.ofArguments (front ++ command.name :: back) = .ok ⟨command, request.file⟩ :=
    Request.ofArguments_eq_ok_iff.mpr ⟨front, back, rfl, hfile⟩
  rw [run, haccepted]
  rfl

/-- The commands are asked about a machine that two entries describe. -/
theorem commands_agree_hostedMachine
    : ∃ read : String → Except ReadFailure String,
        Request.ofArguments ["-v", "nodes", "-fh.json"] = .ok ⟨.nodes, "h.json"⟩
        ∧ document? read "h.json" = some ⟨[hostedMachine, hostedMachine]⟩
        ∧ ∃ answers nodes templates,
            run read ["-v", "nodes", "-fh.json"] = .ok (answers .nodes)
            ∧ (∀ command, (answers command).exitCode = 0)
            ∧ ShareNodes answers nodes templates := by
  have hrequest
      : Request.ofArguments ["-v", "nodes", "-fh.json"] = .ok ⟨.nodes, "h.json"⟩ := by
    decide +kernel
  have hdepth
      : (Template.Document.toJson ⟨[hostedMachine, hostedMachine]⟩).depth ≤ Json.depthLimit :=
    (Template.Document.ofJsonText?_render _).2.mpr (by decide)
  have hformat : formatOf "h.json" = .json := by
    rw [formatOf, fileName?_of_not_mem (by decide) (by decide)]
    decide +kernel
  have hcompiles
      : (compile .standard ⟨[hostedMachine, hostedMachine]⟩).toOption.isSome := by
    decide +kernel
  obtain ⟨chain, hchain⟩ := Option.isSome_iff_exists.mp hcompiles
  obtain ⟨read, hread⟩
      : ∃ read : String → Except ReadFailure String,
          read "h.json" = .ok (Template.Document.toJson ⟨[hostedMachine, hostedMachine]⟩).render :=
    ⟨fun _ => .ok _, rfl⟩
  have hdocument := document?_of_render hformat hread hdepth
  obtain ⟨front, back, answers, harguments, _, hrun, hagree⟩ := commands_agree hrequest read
  have hcode : ∀ command, (answers command).exitCode = 0 := by
    intro command
    refine hagree.otherwise command ?_ ?_
    · simp [hagree.failed, hdocument]
    · simp [hagree.rejected, hdocument, toOption_eq_some_iff.mp hchain]
  obtain ⟨nodes, templates, hnodes⟩ := hagree.success (hcode .nodes)
  refine ⟨read, hrequest, hdocument, answers, nodes, templates, ?_, hcode, hnodes⟩
  rw [harguments]
  exact hrun .nodes

end SupplyGraph.CommandLine
