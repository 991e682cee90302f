import RowText.Proofs.Session.Actions

namespace RowText

namespace Answer

def yields : Answer → List RowString
  | string s => [s]
  | strings values => values
  | _ => []

def WellFormed (answer : Answer) : Prop := ∀ s ∈ answer.yields, s.WellFormed

theorem string_wellFormed {s : RowString} (wellFormed : s.WellFormed) :
    (string s).WellFormed := by
  rintro t (_ | ⟨_, ⟨⟩⟩)
  exact wellFormed

theorem wellFormed_of_yields_nil {answer : Answer} (none : answer.yields = []) :
    answer.WellFormed := by
  intro s member
  rw [none] at member
  cases member

theorem answerOption_string_wellFormed {s : Option RowString}
    (wellFormed : ∀ t ∈ s, t.WellFormed) : (answerOption string s).WellFormed := by
  cases s with
  | none => exact wellFormed_of_yields_nil rfl
  | some t => exact string_wellFormed (wellFormed t rfl)

theorem answerOption_wellFormed {α : Type} {give : α → Answer}
    (none : ∀ value, (give value).yields = []) (value : Option α) :
    (answerOption give value).WellFormed := by
  cases value with
  | none => exact wellFormed_of_yields_nil rfl
  | some value => exact wellFormed_of_yields_nil (none value)

theorem answerChecked_wellFormed {α : Type} {outcome : Checked α} {give : α → Answer}
    {answer : Answer} (each : ∀ value, outcome = .ok value → (give value).WellFormed)
    (answers : answerChecked (do return give (← outcome)) = .ok answer) : answer.WellFormed := by
  cases outcome with
  | error fault => cases answers
  | ok value =>
      cases answers
      exact each value rfl

end Answer

namespace Query

/-- The query reads the decoded text of the string, which the string keeps from then on. -/
def Decodes (s : RowString) : Query → Prop
  | materialize | asText | display | write => True
  | upper | lower => ¬ s.isAscii
  | _ => False

variable {s t : RowString} {query : Query}

theorem keeps_given {give : RowString → Except Failure Answer}
    (handed : ∀ s, s.WellFormed → ∀ answer, give s = .ok answer → answer.WellFormed) :
    RowString.keeps.Holds Answer.WellFormed (given give) :=
  fun s wellFormed => ⟨RowString.kept_refl s, handed s wellFormed⟩

theorem keeps_given_string {give : RowString → RowString}
    (made : ∀ s, s.WellFormed → (give s).WellFormed) :
    RowString.keeps.Holds Answer.WellFormed (given fun s => .ok (.string (give s))) := by
  refine keeps_given fun s wellFormed answer gives => ?_
  cases gives
  exact Answer.string_wellFormed (made s wellFormed)

theorem keeps_given_plain {give : RowString → Except Failure Answer}
    (none : ∀ s answer, give s = .ok answer → answer.yields = []) :
    RowString.keeps.Holds Answer.WellFormed (given give) :=
  keeps_given fun s _ answer gives => Answer.wellFormed_of_yields_nil (none s answer gives)

theorem keeps_calling {α : Type} {returns : α → Prop} {call : RowString.Call α}
    (holds : RowString.keeps.Holds returns call) : RowString.keeps.Holds returns (calling call) := by
  intro s wellFormed
  obtain ⟨kept, admitted⟩ := holds s wellFormed
  have ran : (calling call).run.run s =
      ((call.run.run s).1.mapError Failure.abandoned, (call.run.run s).2) := rfl
  rw [ran]
  refine ⟨kept, fun value done => admitted value ?_⟩
  cases outcome : (call.run.run s).1 with
  | error fault =>
      rw [outcome] at done
      cases done
  | ok result =>
      rw [outcome] at done
      cases done
      rfl

theorem keeps_cut (cutting : RowString.Cutting) :
    RowString.keeps.Holds Answer.WellFormed (cut cutting) := by
  refine (keeps_calling (RowString.keeps_cutting cutting)).bind fun parts each => ?_
  refine Guarantee.holds_return (Answer.answerOption_string_wellFormed fun part first => ?_)
  exact each part (List.mem_of_mem_head? first)

theorem keeps_trimmed : RowString.keeps.Holds RowString.WellFormed trimmed :=
  Guarantee.holds_get.bind fun _ _ => keeps_calling (RowString.keeps_piece _)

def AsksText : Query → Prop
  | materialize | asText | display | write | upper | lower => True
  | _ => False

theorem keeps_ask (leaves : ¬ query.AsksText) :
    RowString.keeps.Holds Answer.WellFormed query.ask := by
  cases query with
  | materialize | asText | display | write | upper | lower => exact absurd trivial leaves
  | inspect =>
      intro s wellFormed
      refine ⟨RowString.kept_encoded s, ?_⟩
      rintro _ ⟨⟩
      exact Answer.string_wellFormed wellFormed
  | debug =>
      intro s _
      refine ⟨RowString.kept_refl s, ?_⟩
      rintro _ ⟨⟩
      exact Answer.wellFormed_of_yields_nil rfl
  | substring | substringSql | trim => exact keeps_cut _
  | toBoolean =>
      exact keeps_trimmed.bind fun _ _ =>
        Guarantee.holds_return (Answer.answerOption_wellFormed (fun _ => rfl) _)
  | toFloat =>
      exact keeps_trimmed.bind fun _ _ =>
        Guarantee.holds_return (Answer.wellFormed_of_yields_nil rfl)
  | clone => exact keeps_given_string fun _ wellFormed => wellFormed
  | deepCopy => exact keeps_given_string fun _ _ => RowString.ofBytes_wellFormed _
  | reverse => exact keeps_given_string fun s _ => RowString.reverse_wellFormed s
  | byteAt index =>
      refine keeps_given fun s _ answer gives => ?_
      exact Answer.answerChecked_wellFormed (fun _ _ => Answer.wellFormed_of_yields_nil rfl) gives
  | toInteger width =>
      refine keeps_given fun s _ answer gives => ?_
      rw [integerAnswer] at gives
      split at gives
      · cases gives
        exact Answer.answerOption_wellFormed (fun _ => rfl) _
      · cases gives
  | castDecimal precision scale =>
      refine keeps_given fun s _ answer gives => ?_
      rw [decimalAnswer] at gives
      split at gives
      · cases gives
      · exact Answer.answerChecked_wellFormed
          (fun _ _ => Answer.answerOption_wellFormed (fun _ => rfl) _) gives
  | _ =>
      refine keeps_given_plain fun s answer gives => ?_
      cases gives
      rfl

theorem after_of_decodes (decodes : query.Decodes s) : query.after s = s.decoded := by
  cases query with
  | materialize | asText | display | write => rfl
  | upper | lower => exact (RowString.mapCase_after _ _ s).trans (if_neg decodes)
  | _ => exact decodes.elim

theorem after_of_not_decodes (wellFormed : s.WellFormed) (leaves : ¬ query.Decodes s) :
    RowString.Kept s (query.after s) := by
  by_cases asks : query.AsksText
  · cases query with
    | materialize | asText | display | write => exact absurd trivial leaves
    | upper | lower =>
        exact Or.inl ((RowString.mapCase_after _ _ s).trans (if_pos (not_not.mp leaves)))
    | _ => exact asks.elim
  · exact (keeps_ask asks s wellFormed).1

theorem answer_wellFormed (wellFormed : s.WellFormed) {answer : Answer}
    (answers : query.answer s = .ok answer) : answer.WellFormed := by
  by_cases asks : query.AsksText
  · cases query with
    | materialize =>
        cases answers
        exact Answer.string_wellFormed (RowString.decoded_wellFormed wellFormed)
    | asText | display | write =>
        cases answers
        exact Answer.wellFormed_of_yields_nil rfl
    | upper | lower =>
        obtain rfl : Answer.string (s.mapCase _ _) = answer := Except.ok.inj answers
        exact Answer.string_wellFormed (RowString.mapCase_wellFormed _ _ s)
    | _ => exact asks.elim
  · exact (keeps_ask asks s wellFormed).2 answer answers

end Query

namespace Session

variable {session : Session}

theorem reads_cut {source : StringSource} {s : RowString} (wellFormed : s.WellFormed)
    (cutting : RowString.Cutting) :
    Reads (fun parts => ∀ part ∈ parts, part.WellFormed) (cut source s cutting) := by
  have keeps := RowString.keeps_cutting cutting
  refine (reads_touch source fun t fine => (keeps t fine).1).bind fun _ _ => ?_
  exact reads_checked (keeps s wellFormed).2

theorem reads_writeKey (source : StringSource) (s : RowString) (b : Buffer) (offset width : Nat) :
    Reads (fun _ => True) (writeKey source s b offset width) := by
  refine (reads_touch source fun t _ => ?_).bind fun _ _ => Guarantee.holds_return trivial
  unfold Buffer.writeKey
  rcases b.fill offset width keyPad with ⟨_ | _, filled⟩
  · exact RowString.kept_refl t
  · exact RowString.kept_encoded t

theorem reads_firstPart {parts : List RowString} (each : ∀ part ∈ parts, part.WellFormed) :
    Reads Answer.WellFormed (pure (answerOption .string parts.head?) : Action Answer) :=
  Guarantee.holds_return (Answer.answerOption_string_wellFormed fun part first =>
    each part (List.mem_of_mem_head? first))

theorem reads_return_plain {answer : Answer} (none : answer.yields = []) :
    Reads Answer.WellFormed (pure answer : Action Answer) :=
  Guarantee.holds_return (Answer.wellFormed_of_yields_nil none)

theorem reads_checked_plain {α : Type} {outcome : Checked α} {give : α → Answer}
    (none : ∀ value, (give value).yields = []) :
    Reads Answer.WellFormed (checked outcome >>= fun value => pure (give value)) :=
  (reads_checked_any outcome).bind fun value _ => reads_return_plain (none value)

theorem reads_runString {command : StringCommand}
    (other : ∀ source query, command ≠ .query source query) :
    Reads Answer.WellFormed (runString command) := by
  cases command with
  | query source query => exact absurd rfl (other source query)
  | trimWith source setSource leading trailing =>
      refine (reads_resolveString source).bind fun s wellFormed => ?_
      refine (reads_resolveString setSource).bind fun set _ => ?_
      exact (reads_cut wellFormed _).bind fun _ each => reads_firstPart each
  | find source needleSource =>
      refine (reads_resolveString source).bind fun s _ => ?_
      refine (reads_resolveString needleSource).bind fun needle _ => ?_
      exact reads_return_plain rfl
  | indexOf source needleSource start =>
      refine (reads_resolveString source).bind fun s _ => ?_
      refine (reads_resolveString needleSource).bind fun needle _ => ?_
      exact Guarantee.holds_return (Answer.answerOption_wellFormed (fun _ => rfl) _)
  | compare aSource bSource =>
      refine (reads_resolveString aSource).bind fun a _ => ?_
      refine (reads_resolveString bSource).bind fun b _ => ?_
      have answers : Reads Answer.WellFormed (pure (.comparison (a.compareTo b) (a.equals b)
          (a.hashFeed == b.hashFeed)) : Action Answer) :=
        reads_return_plain rfl
      dsimp only
      split
      · refine (reads_touch aSource fun t _ => RowString.kept_encoded t).bind fun _ _ => ?_
        exact (reads_touch bSource fun t _ => RowString.kept_encoded t).bind fun _ _ => answers
      · exact answers
  | sort items =>
      refine (Guarantee.holds_mapM fun item _ => reads_resolveOptional item).bind fun items _ => ?_
      exact reads_return_plain rfl
  | concat parts =>
      refine (Guarantee.holds_mapM fun part _ => reads_resolveOptional part).bind fun parts _ => ?_
      exact Guarantee.holds_return (Answer.answerOption_string_wellFormed
        fun _ joined => RowString.concat_wellFormed joined)
  | concatWith separator parts =>
      refine (reads_resolveOptional separator).bind fun separator _ => ?_
      refine (Guarantee.holds_mapM fun part _ => reads_resolveOptional part).bind fun parts _ => ?_
      exact Guarantee.holds_return (Answer.answerOption_string_wellFormed
        fun _ joined => RowString.concatWith_wellFormed joined)
  | split source separator =>
      refine (reads_resolveString source).bind fun s wellFormed => ?_
      refine (reads_resolveOptional separator).bind fun separator _ => ?_
      exact (reads_cut wellFormed _).bind fun _ each => Guarantee.holds_return each
  | keyValue source key entryEnd keyEnd =>
      refine (reads_resolveString source).bind fun s wellFormed => ?_
      refine (reads_resolveOptional key).bind fun key _ => ?_
      exact (reads_cut wellFormed _).bind fun _ each => reads_firstPart each
  | key capacity fill source offset width =>
      refine (reads_checked_any _).bind fun bytes _ => ?_
      refine (reads_resolveString source).bind fun s _ => ?_
      refine (reads_writeKey source s _ offset width).bind fun written _ => ?_
      exact reads_checked_plain fun _ => rfl
  | pack values =>
      refine (reads_checked fun _ packed => RowString.pack_wellFormed packed).bind fun _ each => ?_
      exact Guarantee.holds_return each
  | read document =>
      rw [runString]
      split
      · exact Guarantee.holds_return (Answer.string_wellFormed (RowString.read?_wellFormed ‹_›))
      · exact Guarantee.holds_throw _
  | decode sequence offset length =>
      refine (reads_resolveSequence sequence).bind fun segments _ => ?_
      exact reads_checked_plain fun _ => rfl
  | sequence sequence =>
      refine (reads_resolveSequence sequence).bind fun segments _ => ?_
      exact reads_return_plain rfl

theorem reads_setBuffer (name : String) (b : Buffer) : Reads (fun _ => True) (setBuffer name b) :=
  reads_modify fun _ => rfl

theorem reads_writeBuffer (name : String) {write : Buffer → Action Written}
    (writes : ∀ b, Reads (fun _ => True) (write b)) :
    Reads Answer.WellFormed (writeBuffer name write) := by
  refine (reads_lookup_any name).bind fun b _ => ?_
  refine (writes b).bind fun written _ => ?_
  refine (reads_setBuffer name _).bind fun _ _ => ?_
  exact reads_checked_plain fun _ => rfl

theorem reads_runBuffer (name : String) (command : BufferCommand) :
    Reads Answer.WellFormed (runBuffer name command) := by
  cases command with
  | new capacity =>
      refine (reads_checked_any _).bind fun b _ => ?_
      refine (reads_setBuffer name b).bind fun _ _ => ?_
      exact reads_return_plain rfl
  | put | putByte | fill => exact reads_writeBuffer name fun _ => Guarantee.holds_return trivial
  | putKey source offset width =>
      refine (reads_resolveString source).bind fun s _ => ?_
      exact reads_writeBuffer name fun b => reads_writeKey source s b offset width
  | contents | preview =>
      refine (reads_lookup_any name).bind fun b _ => ?_
      exact reads_return_plain rfl
  | get index =>
      refine (reads_lookup_any name).bind fun b _ => ?_
      exact reads_checked_plain fun _ => rfl
  | compareBuffer other offset otherOffset length =>
      refine (reads_lookup_any name).bind fun b _ => ?_
      refine (reads_lookup_any other).bind fun other _ => ?_
      exact reads_checked_plain fun _ => rfl
  | compareSegment other offset otherOffset length =>
      refine (reads_lookup_any name).bind fun b _ => ?_
      refine (reads_resolveSegment other).bind fun other _ => ?_
      exact reads_checked_plain fun _ => rfl
  | freeze =>
      refine (reads_lookup_any name).bind fun b _ => ?_
      have erases : Reads (fun _ => True) (modify fun session : Session =>
          { session with buffers := session.buffers.erase name } : Action PUnit) :=
        reads_modify fun _ => rfl
      refine erases.bind fun _ _ => ?_
      exact reads_return_plain rfl

theorem reads_runSegment (source : SegmentSource) (command : SegmentCommand) :
    Reads Answer.WellFormed (runSegment source command) := by
  refine (reads_resolveSegment source).bind fun s _ => ?_
  cases command with
  | new | contents | preview => exact reads_return_plain rfl
  | get | getInto | range | slice => exact reads_checked_plain fun _ => rfl
  | compare other offset otherOffset length =>
      refine (reads_resolveSegment other).bind fun other _ => ?_
      refine (reads_checked_any _).bind fun order _ => ?_
      exact reads_checked_plain fun _ => rfl
  | equals other =>
      refine (reads_resolveSegment other).bind fun other _ => ?_
      exact reads_return_plain rfl

end Session

end RowText
