import TieWalk.Proofs.Text.Encoding
import TieWalk.Relation.Delimited

/-!
# Tables as delimited bytes

How a table of texts is written into a delimited file: each field bare or in quotes, with a delimiter between fields and
a line end after each record, with or without a byte order mark and with empty lines wherever they please. The machine
that cuts a file into records gives back what was written (`records_of_isFile`), and the fields' bytes are the texts
that were encoded (`Record.texts_eq_ok`).
-/

namespace TieWalk

namespace Delimited

/-! ## What is written -/

/-- The bytes of a field with each quote doubled. -/
def doubled (value : List UInt8) : List UInt8 := value.flatMap fun b => if b = quote then [quote, quote] else [b]

/-- A field as it is written: bare, where it holds neither delimiter nor line end and does not start with a quote, or in
quotes, with each quote in it doubled. -/
inductive IsField : List UInt8 → List UInt8 → Prop where
  | bare {value : List UInt8} : value.head? ≠ some quote → (∀ b ∈ value, b ≠ delimiter ∧ isLineEnd b = false) →
      IsField value value
  | quoted (value : List UInt8) :
      IsField (quote :: (doubled value ++ [quote])) value

/-- A record as it is written: its fields with delimiters between them. -/
inductive IsRecord : List UInt8 → List (List UInt8) → Prop where
  | last {bytes value : List UInt8} : IsField bytes value → IsRecord bytes [value]
  | more {bytes rest value : List UInt8} {values : List (List UInt8)} :
      IsField bytes value → IsRecord rest values → IsRecord (bytes ++ delimiter :: rest) (value :: values)

/-- Records as they are written: each on a line of its own that is not empty, the last with or without a line end, and
empty lines anywhere. -/
inductive IsBody : List UInt8 → List (List (List UInt8)) → Prop where
  | nil : IsBody [] []
  | emptyLine {b : UInt8} {rest : List UInt8} {records : List (List (List UInt8))} :
      isLineEnd b = true → IsBody rest records → IsBody (b :: rest) records
  | last {bytes : List UInt8} {fields : List (List UInt8)} : IsRecord bytes fields → bytes ≠ [] → IsBody bytes [fields]
  | more {b : UInt8} {bytes rest : List UInt8} {fields : List (List UInt8)} {records : List (List (List UInt8))} :
      IsRecord bytes fields → bytes ≠ [] → isLineEnd b = true → IsBody rest records →
        IsBody (bytes ++ b :: rest) (fields :: records)

/-- A file as it is written: records, with or without a byte order mark before them. -/
inductive IsFile : List UInt8 → List (List (List UInt8)) → Prop where
  | marked {body : List UInt8} {records : List (List (List UInt8))} :
    IsBody body records → IsFile (byteOrderMark ++ body) records
  | unmarked {body : List UInt8} {records : List (List (List UInt8))} :
      byteOrderMark.isPrefixOf body = false → IsBody body records → IsFile body records

/-! ## One byte -/

/-- More bytes of a field. -/
def Pending.addAll (p : Pending) (value : List UInt8) : Pending := { p with field := value.reverse ++ p.field }

theorem Pending.addAll_add (p : Pending) (b : UInt8) (value : List UInt8) :
    (p.add b).addAll value = p.addAll (b :: value) := by
  simp [addAll, add]

variable {mode next : Mode} {b : UInt8} {here : Place} {p : Pending} {rest : List UInt8}

/-- A byte that is passed over only moves the place. -/
theorem recordsFrom_skip (h : effect mode b = .skip) :
    recordsFrom mode here p (b :: rest) = recordsFrom mode (here.after b) p rest := by
  rw [recordsFrom, h]

/-- A byte that moves the reader on belongs to no field. -/
theorem recordsFrom_move (h : effect mode b = .move next) :
    recordsFrom mode here p (b :: rest) = recordsFrom next (here.after b) p rest := by
  rw [recordsFrom, h]

/-- A byte of a field joins the pending one. -/
theorem recordsFrom_add (h : effect mode b = .add next) :
    recordsFrom mode here p (b :: rest) = recordsFrom next (here.after b) (p.add b) rest := by
  rw [recordsFrom, h]

/-- At the end of a field the pending one is done. -/
theorem recordsFrom_endField (h : effect mode b = .endField) :
    recordsFrom mode here p (b :: rest) = recordsFrom .fieldStart (here.after b) p.endField rest := by
  rw [recordsFrom, h]

/-- At the end of a record it is given, and the next one is pending. -/
theorem recordsFrom_endRecord (h : effect mode b = .endRecord) : recordsFrom mode here p (b :: rest) =
    p.record :: recordsFrom .between (here.after b) (.begin (p.place.record + 1) (here.after b)) rest := by
  rw [recordsFrom, h]

/-- What begins no empty line begins a record. -/
theorem recordsFrom_between (h : isLineEnd b = false) :
    recordsFrom .between here p (b :: rest) = recordsFrom .fieldStart here p (b :: rest) := by
  have heffect : effect .between b = effect .fieldStart b := by simp [effect, h]
  rw [recordsFrom, recordsFrom, heffect]
  have hskip : startEffect b ≠ .skip := by
    unfold startEffect bareEffect
    split
    · exact nofun
    · split
      · exact nofun
      · split <;> exact nofun
  cases hcase : effect .fieldStart b with
  | skip => exact absurd hcase hskip
  | move | add | endField | endRecord => rfl

/-! ## Fields -/

/-- In a field, or right after one: what the machine is in when a field may end. -/
def Mode.MayEnd (mode : Mode) : Prop := mode ≠ .between ∧ mode ≠ .quoted

/-- Where a field may end, a delimiter ends it. -/
theorem Mode.MayEnd.effect_delimiter (h : mode.MayEnd) : effect mode delimiter = .endField := by
  cases mode with
  | between => exact absurd rfl h.1
  | quoted => exact absurd rfl h.2
  | fieldStart | bare | closing => decide

/-- Where a field may end, the end of a line ends the record. -/
theorem Mode.MayEnd.effect_lineEnd (h : mode.MayEnd) (hb : isLineEnd b = true) : effect mode b = .endRecord := by
  have hcases : b = 0x0D ∨ b = lineFeed := by simpa [isLineEnd] using hb
  cases mode with
  | between => exact absurd rfl h.1
  | quoted => exact absurd rfl h.2
  | fieldStart | bare | closing => rcases hcases with rfl | rfl <;> decide

/-- Outside quotes, bytes are taken up to a delimiter or a line end. -/
theorem exists_recordsFrom_bare {value : List UInt8} (h : ∀ b ∈ value, b ≠ delimiter ∧ isLineEnd b = false)
    (here : Place) (p : Pending) (rest : List UInt8) :
    ∃ here', recordsFrom .bare here p (value ++ rest) = recordsFrom .bare here' (p.addAll value) rest := by
  induction value generalizing here p with
  | nil => exact ⟨here, rfl⟩
  | cons b value ih =>
    obtain ⟨⟨hdelimiter, hend⟩, hvalue⟩ := List.forall_mem_cons.1 h
    have heffect : effect .bare b = .add .bare := by simp [effect, bareEffect, hdelimiter, hend]
    obtain ⟨here', hrest⟩ := ih hvalue (here.after b) (p.add b)
    rw [Pending.addAll_add] at hrest
    exact ⟨here', by rw [List.cons_append, recordsFrom_add heffect, hrest]⟩

/-- Inside quotes, bytes are taken up to the quote that stands alone. -/
theorem exists_recordsFrom_quoted (value : List UInt8) (here : Place) (p : Pending) (rest : List UInt8) : ∃ here',
    recordsFrom .quoted here p (doubled value ++ quote :: rest) = recordsFrom .closing here' (p.addAll value) rest := by
  induction value generalizing here p with
  | nil => exact ⟨here.after quote, recordsFrom_move (by decide)⟩
  | cons b value ih =>
    by_cases hquote : b = quote
    · subst hquote
      obtain ⟨here', hrest⟩ := ih ((here.after quote).after quote) (p.add quote)
      rw [Pending.addAll_add] at hrest
      refine ⟨here', ?_⟩
      rw [doubled, List.flatMap_cons, if_pos rfl, List.append_assoc, List.cons_append, List.cons_append,
        List.nil_append, recordsFrom_move (by decide : effect .quoted quote = .move .closing),
        recordsFrom_add (by decide : effect .closing quote = .add .quoted)]
      exact hrest
    · obtain ⟨here', hrest⟩ := ih (here.after b) (p.add b)
      rw [Pending.addAll_add] at hrest
      refine ⟨here', ?_⟩
      have heffect : effect .quoted b = .add .quoted := by simp [effect, hquote]
      rw [doubled, List.flatMap_cons, if_neg hquote, List.append_assoc, List.singleton_append, recordsFrom_add heffect]
      exact hrest

/-- A field that is written is taken whole. -/
theorem exists_recordsFrom_field {bytes value : List UInt8} (h : IsField bytes value) (here : Place) (p : Pending)
    (rest : List UInt8) :
    ∃ mode here', Mode.MayEnd mode ∧
      recordsFrom .fieldStart here p (bytes ++ rest) = recordsFrom mode here' (p.addAll value) rest := by
  cases h with
  | bare hstart hvalue =>
    cases bytes with
    -- A field without bytes is never entered: the machine is still where a field starts.
    | nil => exact ⟨.fieldStart, here, ⟨nofun, nofun⟩, rfl⟩
    | cons b value =>
      obtain ⟨⟨hdelimiter, hend⟩, hvalue⟩ := List.forall_mem_cons.1 hvalue
      have hquote : b ≠ quote := fun hb => hstart (congrArg some hb)
      have heffect : effect .fieldStart b = .add .bare := by
        simp [effect, startEffect, bareEffect, hquote, hdelimiter, hend]
      obtain ⟨here', hrest⟩ := exists_recordsFrom_bare hvalue (here.after b) (p.add b) rest
      rw [Pending.addAll_add] at hrest
      exact ⟨.bare, here', ⟨nofun, nofun⟩, by rw [List.cons_append, recordsFrom_add heffect, hrest]⟩
  | quoted =>
    obtain ⟨here', hrest⟩ := exists_recordsFrom_quoted value (here.after quote) p rest
    refine ⟨.closing, here', ⟨nofun, nofun⟩, ?_⟩
    rw [List.cons_append, List.append_assoc, List.singleton_append,
      recordsFrom_move (by decide : effect .fieldStart quote = .move .quoted)]
    exact hrest

/-! ## Records -/

/-- A record that is written is taken whole. -/
theorem exists_recordsFrom_record {bytes : List UInt8} {fields : List (List UInt8)} (h : IsRecord bytes fields)
    (here : Place) {p : Pending} (hp : p.field = []) (rest : List UInt8) : ∃ mode here' p', Mode.MayEnd mode ∧
      recordsFrom .fieldStart here p (bytes ++ rest) = recordsFrom mode here' p' rest ∧
      p'.record.fields = p.fields.reverse ++ fields := by
  induction h generalizing here p with
  | @last bytes value hfield =>
    obtain ⟨mode, here', hend, hrest⟩ := exists_recordsFrom_field hfield here p rest
    refine ⟨mode, here', p.addAll value, hend, hrest, ?_⟩
    simp [Pending.record, Pending.endField, Pending.addAll, hp]
  | @more bytes more value values hfield _ ih =>
    -- The fields that are done stand in reverse, so the statement is about any fields before these.
    obtain ⟨mode, here', hend, hrest⟩ := exists_recordsFrom_field hfield here p (delimiter :: (more ++ rest))
    obtain ⟨mode', here'', p', hend', hmore, hfields⟩ := ih (here'.after delimiter) (p := (p.addAll value).endField) rfl
    refine ⟨mode', here'', p', hend', ?_, ?_⟩
    · rw [List.append_assoc, List.cons_append, hrest, recordsFrom_endField hend.effect_delimiter, hmore]
    · rw [hfields]
      simp [Pending.endField, Pending.addAll, hp]

/-- No record starts with a line end. -/
theorem IsRecord.isLineEnd_head {b : UInt8} {bytes : List UInt8} {fields : List (List UInt8)}
    (h : IsRecord (b :: bytes) fields) : isLineEnd b = false := by
  have hfield : ∀ {bytes value : List UInt8}, IsField bytes value → ∀ b ∈ bytes.head?, isLineEnd b = false := by
    intro bytes value hfield b hb
    cases hfield with
    | bare _ hvalue => exact (hvalue b (List.mem_of_mem_head? hb)).2
    | quoted =>
      cases hb
      decide
  generalize hcons : b :: bytes = all at h
  cases h with
  | last h => exact hfield h b (hcons ▸ rfl)
  | @more field rest _ _ h _ =>
    cases field with
    | nil =>
      cases hcons
      decide
    | cons c field =>
      cases hcons
      exact hfield h b rfl

/-- A record that starts a line is taken whole. Empty lines keep the record under way, so no more is known of it than
that it has no bytes yet. -/
theorem exists_recordsFrom_line {bytes : List UInt8} {fields : List (List UInt8)} (h : IsRecord bytes fields)
    (hne : bytes ≠ []) (here : Place) {p : Pending} (hp : p.fields = [] ∧ p.field = []) (rest : List UInt8) :
    ∃ mode here' p', Mode.MayEnd mode ∧
      recordsFrom .between here p (bytes ++ rest) = recordsFrom mode here' p' rest ∧ p'.record.fields = fields := by
  obtain ⟨b, bytes, rfl⟩ := List.exists_cons_of_ne_nil hne
  obtain ⟨mode, here', p', hend, hrest, hfields⟩ := exists_recordsFrom_record h here hp.2 rest
  rw [hp.1] at hfields
  refine ⟨mode, here', p', hend, ?_, hfields⟩
  rw [List.cons_append, recordsFrom_between h.isLineEnd_head]
  exact hrest

/-- Records that are written are cut apart. -/
theorem map_fields_recordsFrom {bytes : List UInt8} {records : List (List (List UInt8))} (h : IsBody bytes records)
    (here : Place) {p : Pending} (hp : p.fields = [] ∧ p.field = []) :
    (recordsFrom .between here p bytes).map Record.fields = records := by
  induction h generalizing here p with
  | nil => rfl
  | emptyLine hb _ ih =>
    rw [recordsFrom_skip (by simp [effect, hb])]
    exact ih _ hp
  | last h hne =>
    obtain ⟨mode, here', p', hend, hrest, hfields⟩ := exists_recordsFrom_line h hne here hp []
    rw [List.append_nil] at hrest
    rw [hrest, recordsFrom, if_neg hend.1, List.map_singleton, hfields]
  | @more b bytes rest fields records h hne hb _ ih =>
    obtain ⟨mode, here', p', hend, hrest, hfields⟩ := exists_recordsFrom_line h hne here hp (b :: rest)
    rw [hrest, recordsFrom_endRecord (hend.effect_lineEnd hb), List.map_cons, hfields, ih _ ⟨rfl, rfl⟩]

/-- The records of a file are those that were written. -/
theorem records_of_isFile {bytes : List UInt8} {written : List (List (List UInt8))} (h : IsFile bytes written) :
    (records bytes).map Record.fields = written := by
  cases h with
  | marked hbody =>
    unfold records
    rw [if_pos (List.isPrefixOf_iff_prefix.2 (List.prefix_append _ _)), List.drop_left]
    exact map_fields_recordsFrom hbody _ ⟨rfl, rfl⟩
  | unmarked hmark hbody =>
    unfold records
    rw [hmark, if_neg Bool.false_ne_true]
    exact map_fields_recordsFrom hbody _ ⟨rfl, rfl⟩

/-- Fields that are texts are decoded as these texts. -/
theorem decodeFields_encode (place : RecordPlace) (number : Nat) (texts : List String) :
    decodeFields place number (texts.map Text.encode) = .ok texts := by
  induction texts generalizing number with
  | nil => rfl
  | cons text rest ih =>
    rw [List.map_cons, decodeFields, Text.decodeUtf8_encode]
    simp only [ih]

/-- The texts of a record are those whose bytes its fields are. -/
theorem Record.texts_eq_ok {r : Record} {texts : List String} (h : r.fields = texts.map Text.encode) :
    r.texts = .ok texts := by
  rw [Record.texts, h]
  exact decodeFields_encode _ _ _

end Delimited

end TieWalk
