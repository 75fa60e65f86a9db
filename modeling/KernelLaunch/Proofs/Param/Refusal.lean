import KernelLaunch.Proofs.Param.Effect
import KernelLaunch.Proofs.Param.Spelling

/-!
# What the message of a refused parameter tells

A table is read for its tuning and for its metadata, and both can fail over a parameter
that is bound to the wrong value. The message shows the name of the parameter and the
whole value, so that two failures with the same message are about the same name and the
same value, even if the tables around them and the platforms have nothing in common.
-/

namespace KernelLaunch

namespace LoweringError

/-- A cause lies in what a name is bound to. -/
inductive Blames : LoweringError → String → Param → Prop
  | sort (key : String) (expected : ParamSort) (found : Param) :
      Blames (.paramSort key expected found) key found
  | range (key : String) (value : Int64) : Blames (.paramRange key value) key (.int value)

/-- The ways to write the message of such a cause. -/
inductive Spelling : LoweringError → List Char → Prop
  | sort (key : String) (expected : ParamSort) {found : Param} {written : List Char} :
      found.Spelling written →
      Spelling (.paramSort key expected found)
        (("`" ++ key ++ "` must be " ++ expected.phrase ++ ", got ").toList ++ written)
  | range (key : String) (value : Int64) :
      Spelling (.paramRange key value)
        ("`" ++ key ++ "` = " ++ toString value.toInt ++ ", positive i32 expected").toList

/-- The message is one of the ways to write it. -/
theorem Blames.spelling_message {error : LoweringError} {key : String} {found : Param}
    (hblames : error.Blames key found) : error.Spelling error.message.toList := by
  cases hblames with
  | sort _ expected =>
    have hmessage : (paramSort key expected found).message =
        "`" ++ key ++ "` must be " ++ expected.phrase ++ ", got " ++ found.toText := rfl
    rw [hmessage, String.toList_append]
    exact .sort key expected found.spelling_toText
  | range _ value => exact .range key value

/-- The message about a value of the wrong sort, taken apart at the quotes of the name and
at the comma. -/
theorem toList_sort (key : String) (expected : ParamSort) (written : List Char) :
    ("`" ++ key ++ "` must be " ++ expected.phrase ++ ", got ").toList ++ written =
      '\x60' :: (key.toList ++ '\x60' :: (" must be ".toList ++
        (expected.phrase.toList ++ ',' :: (" got ".toList ++ written)))) := by
  simp

/-- The message about an integer out of range, taken apart at the quotes of the name. -/
theorem toList_range (key : String) (value : Int64) :
    ("`" ++ key ++ "` = " ++ toString value.toInt ++ ", positive i32 expected").toList =
      '\x60' :: (key.toList ++ '\x60' :: (" = ".toList ++
        ((toString value.toInt).toList ++ ", positive i32 expected".toList))) := by
  simp

/-- A name free of quotes, and what follows it in its quotes, can be read off. -/
theorem quotedName_append_inj {key key' : String} {s t : List Char}
    (hkey : '\x60' ∉ key.toList) (hkey' : '\x60' ∉ key'.toList)
    (htext : '\x60' :: (key.toList ++ '\x60' :: s) = '\x60' :: (key'.toList ++ '\x60' :: t)) :
    key = key' ∧ s = t := by
  obtain ⟨hname, hrest⟩ := Text.append_delimiter_inj hkey hkey' (List.cons.inj htext).2
  exact ⟨String.toList_inj.mp hname, hrest⟩

/-- The phrase for a sort holds no comma. -/
theorem comma_notMem_phrase (expected : ParamSort) : ',' ∉ expected.phrase.toList := by
  cases expected <;> decide

/-- Causes that can be written in the same way lie in the same name and the same value,
provided that the names are free of the quotes that stand around them. -/
theorem Blames.eq_of_spelling {x y : LoweringError} {key key' : String} {found found' : Param}
    {v w : List Char} (hx : x.Blames key found) (hy : y.Blames key' found')
    (hkey : '\x60' ∉ key.toList) (hkey' : '\x60' ∉ key'.toList) (hv : x.Spelling v)
    (hw : y.Spelling w) (htext : v = w) : key = key' ∧ found = found' := by
  cases hv with
  | sort _ expected hfound =>
    cases hx
    cases hw with
    | sort _ expected' hfound' =>
      cases hy
      rw [toList_sort, toList_sort] at htext
      obtain ⟨hname, hbehind⟩ := quotedName_append_inj hkey hkey' htext
      obtain ⟨_, hvalue⟩ := Text.append_delimiter_inj (comma_notMem_phrase expected)
        (comma_notMem_phrase expected') (List.append_cancel_left hbehind)
      have hwritten := List.append_cancel_left hvalue
      exact ⟨hname, hfound.inj (hwritten ▸ hfound')⟩
    | range _ value =>
      cases hy
      rw [toList_sort, toList_range] at htext
      obtain ⟨_, hbehind⟩ := quotedName_append_inj hkey hkey' htext
      simp at hbehind
  | range _ value =>
    cases hx
    cases hw with
    | sort _ expected' _ =>
      cases hy
      rw [toList_range, toList_sort] at htext
      obtain ⟨_, hbehind⟩ := quotedName_append_inj hkey hkey' htext
      simp at hbehind
    | range _ value' =>
      cases hy
      rw [toList_range, toList_range] at htext
      obtain ⟨hname, hbehind⟩ := quotedName_append_inj hkey hkey' htext
      have hcomma : Text.NoDigitAhead ", positive i32 expected".toList :=
        Text.noDigitAhead_cons (by decide) _
      obtain ⟨hvalue, _⟩ :=
        Text.integer_append_inj hcomma hcomma (List.append_cancel_left hbehind)
      exact ⟨hname, congrArg Param.int (Int64.toInt_inj.mp hvalue)⟩

end LoweringError

/-- A value that is no positive word is blamed as such. -/
theorem Param.blames_wordFault (key : String) (found : Param) :
    (found.wordFault key).Blames key found := by
  cases found with
  | int value => exact .range key value
  | bool | text | table => exact .sort key .integer _

namespace Params

/-- A table is read for its tuning or for its metadata, and that fails. -/
def Fails (params : Params) (error : LoweringError) : Prop :=
  (∃ platform after, params.extractTuning platform = (.error error, after)) ∨
    params.metadata = .error error

/-- A table is read, and that fails over a value that a name is bound to. -/
inductive Refuses (params : Params) : LoweringError → String → Param → Prop
  /-- The tuning is read, and the name of the back-end parameters is not bound to a
  table. -/
  | backend {platform : Platform} {error : LoweringError} {after : Params} {found : Param} :
      params.extractTuning platform = (.error error, after) →
      params.get? "triton" = some found → ¬found.IsTable → Refuses params error "triton" found
  /-- The tuning is read, and the number of warps is no positive word. -/
  | numWarps {platform : Platform} {error : LoweringError} {after back : Params}
      {found : Param} :
      params.extractTuning platform = (.error error, after) → params.Selects back →
      back.get? "num_warps" = some found → ¬found.IsPositiveWord →
      Refuses params error "num_warps" found
  /-- The tuning is read, and the number of stages is no positive word, while the number
  of warps is allowed. -/
  | numStages {platform : Platform} {error : LoweringError} {after back : Params}
      {found : Param} :
      params.extractTuning platform = (.error error, after) → params.Selects back →
      back.Allows "num_warps" → back.get? "num_stages" = some found → ¬found.IsPositiveWord →
      Refuses params error "num_stages" found
  /-- The metadata are read, and they are no text. -/
  | metadata {error : LoweringError} {found : Param} :
      params.metadata = .error error → params.get? "serialized_metadata" = some found →
      ¬found.IsText → Refuses params error "serialized_metadata" found

variable {params back : Params}

/-- Where the metadata are no text, they are told. -/
theorem metadata_eq_error_iff {error : LoweringError} :
    params.metadata = .error error ↔
      ∃ found, params.get? metadataKey = some found ∧ ¬found.IsText ∧
        error = .paramSort metadataKey .text found := by
  constructor
  · intro hmetadata
    have hdecide := params.decide_metadata
    rw [hmetadata] at hdecide
    obtain ⟨_, hmem, htells⟩ := hdecide.exists_tells
    obtain rfl := List.mem_singleton.mp hmem
    obtain ⟨found, hfound, hnot, htold, _⟩ := htells
    exact ⟨found, hfound, hnot, htold⟩
  · rintro ⟨found, hfound, hnot, rfl⟩
    cases found with
    | text value => exact absurd trivial hnot
    | int | bool | table => simp [metadata, hfound]

/-- Every failure is over the value of one of four names. -/
theorem Fails.exists_refuses {error : LoweringError} (hfails : params.Fails error) :
    ∃ key found, params.Refuses error key found := by
  rcases hfails with ⟨platform, after, hextract⟩ | hmetadata
  · rcases params.selects_or_not_table with ⟨back, hselects⟩ | ⟨found, hfound, hnot⟩
    · obtain ⟨names, htakes, _⟩ := hselects.takes hextract
      cases htakes with
      | warpsRefused hfound hrefused =>
        exact ⟨_, _, .numWarps hextract hselects hfound hrefused⟩
      | stagesRefused hwarps hfound hrefused =>
        exact ⟨_, _, .numStages hextract hselects hwarps hfound hrefused⟩
    · exact ⟨_, found, .backend hextract hfound hnot⟩
  · obtain ⟨found, hfound, hnot, _⟩ := metadata_eq_error_iff.mp hmetadata
    exact ⟨_, found, .metadata hmetadata hfound hnot⟩

/-- A failure blames the name and the value that it is over. -/
theorem Refuses.blames {error : LoweringError} {key : String} {found : Param}
    (hrefuses : params.Refuses error key found) : error.Blames key found := by
  cases hrefuses with
  | backend hextract hfound hnot =>
    rw [extractTuning_of_not_table hfound hnot] at hextract
    obtain rfl := Except.error.inj (Prod.mk.inj hextract).1
    exact .sort _ .table found
  | numWarps hextract hselects hfound hrefused =>
    obtain ⟨names, htakes, _⟩ := hselects.takes hextract
    cases htakes with
    | warpsRefused hfound' _ =>
      obtain rfl := Option.some.inj (hfound'.symm.trans hfound)
      exact Param.blames_wordFault _ _
    | stagesRefused hwarps _ _ => exact absurd (hwarps found hfound) hrefused
  | numStages hextract hselects hwarps hfound _ =>
    obtain ⟨names, htakes, _⟩ := hselects.takes hextract
    cases htakes with
    | warpsRefused hfound' hrefused => exact absurd (hwarps _ hfound') hrefused
    | stagesRefused _ hfound' _ =>
      obtain rfl := Option.some.inj (hfound'.symm.trans hfound)
      exact Param.blames_wordFault _ _
  | metadata hmetadata hfound _ =>
    obtain ⟨found', hfound', _, rfl⟩ := metadata_eq_error_iff.mp hmetadata
    obtain rfl : found' = found := Option.some.inj (hfound'.symm.trans hfound)
    exact .sort _ .text found'

/-- A name whose value is refused is free of the quotes that stand around it in the
message. -/
theorem Refuses.quote_notMem {error : LoweringError} {key : String} {found : Param}
    (hrefuses : params.Refuses error key found) : '\x60' ∉ key.toList := by
  cases hrefuses <;> decide

/-- A failed reading of a table is over the value of one of four names. If two failures,
of any tables, can be written in the same way, and in particular if their messages are
the same, then they are over the same name and the same value. And tables that can be
written in the same way, in particular those with the same text, are equal. Here it is
left open which characters of the texts inside are written by their code points. -/
theorem refusal_determined_by_message :
    (∀ (params : Params) (error : LoweringError),
      params.Fails error ↔ ∃ key found, params.Refuses error key found) ∧
    (∀ (a b : Params) (x y : LoweringError) (key key' : String) (found found' : Param),
      a.Refuses x key found → b.Refuses y key' found' →
      (x.message = y.message → key = key' ∧ found = found') ∧
      x.Spelling x.message.toList ∧
      ∀ written, x.Spelling written → y.Spelling written → key = key' ∧ found = found') ∧
    ∀ a b : Params,
      (a.toText = b.toText → a = b) ∧
      a.Spelling a.toText.toList ∧
      ∀ written, a.Spelling written → b.Spelling written → a = b := by
  refine ⟨fun params error => ⟨Fails.exists_refuses, ?_⟩,
    fun a b x y key key' found found' hx hy => ?_,
    fun a b => ⟨toText_injective, a.spelling_toText, fun written => Spelling.inj⟩⟩
  · rintro ⟨_, _, hrefuses⟩
    cases hrefuses with
    | backend hextract | numWarps hextract | numStages hextract => exact .inl ⟨_, _, hextract⟩
    | metadata hmetadata => exact .inr hmetadata
  · have hwritten : ∀ written, x.Spelling written → y.Spelling written →
        key = key' ∧ found = found' := fun written hv hw =>
      hx.blames.eq_of_spelling hy.blames hx.quote_notMem hy.quote_notMem hv hw rfl
    have hmessage := hx.blames.spelling_message
    refine ⟨fun hsame => hwritten _ hmessage ?_, hmessage, hwritten⟩
    rw [hsame]
    exact hy.blames.spelling_message

/-- A mark that is written by its code point, and the text that this looks like. A flat
and a nested table are refused over the mark with the same message, but a table is
refused over the other text with another message. -/
theorem refusal_determined_for_lookalikes :
    let mark : Param := .text "\u0301"
    let lookalike : Param := .text "\\u\x7b301\x7d"
    let fault := LoweringError.paramSort "num_warps" .integer
    let flat : Params := ⟨[("num_warps", mark)]⟩
    let nested : Params :=
      ⟨[("num_warps", .int 8), ("triton", .table [("num_stages", .int 0), ("num_warps", mark)])]⟩
    let other : Params := ⟨[("num_warps", lookalike)]⟩
    (fault mark).message = "`num_warps` must be an integer, got Str(\"\\u\x7b301\x7d\")" ∧
      (∃ key found, flat.Refuses (fault mark) key found ∧
        nested.Refuses (fault mark) "num_warps" mark ∧ key = "num_warps" ∧ found = mark) ∧
      other.Refuses (fault lookalike) "num_warps" lookalike ∧
      (fault mark).message ≠ (fault lookalike).message ∧ flat.toText ≠ other.toText := by
  intro mark lookalike fault flat nested other
  obtain ⟨hfails, hsame, htables⟩ := refusal_determined_by_message
  have hflat : flat.extractTuning .cuda = (.error (fault mark), ⟨[]⟩) := rfl
  have hnested : nested.extractTuning .rocm = (.error (fault mark),
      ⟨[("num_warps", .int 8), ("triton", .table [("num_stages", .int 0)])]⟩) := rfl
  have hother : other.extractTuning .cuda = (.error (fault lookalike), ⟨[]⟩) := rfl
  obtain ⟨key, found, hrefuses⟩ := (hfails flat (fault mark)).mp (.inl ⟨_, _, hflat⟩)
  have hnested' : nested.Refuses (fault mark) "num_warps" mark :=
    .numWarps hnested (.nested rfl) rfl id
  have hother' : other.Refuses (fault lookalike) "num_warps" lookalike :=
    .numWarps hother (.whole rfl) rfl id
  obtain ⟨rfl, rfl⟩ := (hsame _ _ _ _ _ _ _ _ hrefuses hnested').1 rfl
  refine ⟨by decide +kernel, ⟨_, _, hrefuses, hnested', rfl, rfl⟩, hother', fun hmessage => ?_,
    fun htext => ?_⟩
  · have hvalue := ((hsame _ _ _ _ _ _ _ _ hrefuses hother').1 hmessage).2
    exact absurd hvalue (by decide)
  · exact absurd ((htables flat other).1 htext) (by decide)

end Params

end KernelLaunch
