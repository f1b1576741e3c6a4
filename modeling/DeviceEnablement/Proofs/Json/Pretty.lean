/-
  Reading a JSON text that was written on several lines.

  Not every value is read back from its text: the literal of a number need not be a number at all.
  Those that hold only integers are.

  1. `Integral`: every number in a value is an integer.
  2. `raw`: the tree of a value.  A character without a letter of its own that has to be escaped
     stands there as a UTF-16 unit, every other one as itself; `text?_pieces` says that the pieces
     make up the text again.
  3. `Ends`: what may follow a value.  A number ends only where no digit, point or exponent follows.
  4. `Raw.Reads`: a value is read from the front of its text, whatever follows, with as much fuel as
     the text is long.  `Raw.reads` carries that from the items and members to the whole value.
  5. `Raw.ofText?_pretty`: the text of a value is read into its tree.
-/
import DeviceEnablement.Json.Reading
import DeviceEnablement.Json.Writing
import Mathlib.Data.Nat.Digits.Defs

namespace DeviceEnablement.Json

/-- Whether every number in a value is an integer. -/
inductive Integral : Json → Prop
  | null : Integral .null
  | bool (value : Bool) : Integral (.bool value)
  | integer (value : Int) : Integral (.number (.integer value))
  | string (text : String) : Integral (.string text)
  | array {items : List Json} (h : ∀ item ∈ items, Integral item) : Integral (.array items)
  | object {members : List (String × Json)} (h : ∀ member ∈ members, Integral member.2) :
      Integral (.object members)

/-! ## The tree of a value -/

/-- A character as it is written in a string. -/
def Piece.ofChar (c : Char) : Piece :=
  if c < ' ' ∧ c ∉ ['\x08', '\x0c', '\n', '\r', '\t'] then .unit c.toNat else .char c

/-- A text as it is written in quotes. -/
def pieces (text : String) : List Piece := text.toList.map Piece.ofChar

/-- An integer as it is written. -/
def Literal.ofInt (n : Int) : Literal :=
  { negative := n < 0, whole := Nat.toDigits 10 n.natAbs, fraction := none, exponent := none }

mutual

/-- The tree of a value whose numbers are integers. -/
def raw : Json → Raw
  | .null => .null
  | .bool b => .bool b
  | .number (.integer n) => .number (.ofInt n)
  | .number (.decimal _) => .null
  | .string text => .string (pieces text)
  | .array items => .array (rawItems items)
  | .object members => .object (rawMembers members)

/-- The trees of the items of an array. -/
def rawItems : List Json → List Raw
  | [] => []
  | item :: rest => raw item :: rawItems rest

/-- The trees of the members of an object. -/
def rawMembers : List (String × Json) → List (List Piece × Raw)
  | [] => []
  | (name, value) :: rest => (pieces name, raw value) :: rawMembers rest

end

theorem rawItems_eq_map (items : List Json) : rawItems items = items.map raw := by
  induction items with
  | nil => rfl
  | cons item rest ih => rw [rawItems, ih, List.map_cons]

theorem rawMembers_eq_map (members : List (String × Json)) :
    rawMembers members = members.map fun member => (pieces member.1, raw member.2) := by
  induction members with
  | nil => rfl
  | cons member rest ih => rw [rawMembers, ih, List.map_cons]

theorem prettyItems_eq_map (level : Nat) (items : List Json) :
    prettyItems level items = items.map (prettyChars level) := by
  induction items with
  | nil => rfl
  | cons item rest ih => rw [prettyItems, ih, List.map_cons]

/-- A member of an object as it is written. -/
def memberChars (level : Nat) (member : String × Json) : List Char :=
  quoted member.1 ++ ':' :: ' ' :: prettyChars level member.2

theorem prettyMembers_eq_map (level : Nat) (members : List (String × Json)) :
    prettyMembers level members = members.map (memberChars level) := by
  induction members with
  | nil => rfl
  | cons member rest ih =>
    rw [prettyMembers, ih, List.map_cons]
    rfl

/-! ## Strings -/

theorem unit?_control : ∀ n < 32,
    Raw.unit? '0' '0' (Nat.digitChar (n / 16)) (Nat.digitChar (n % 16)) = some n := by
  decide

/-- A character is read back from what is written for it. -/
theorem piecesOnto_escape (acc : List Piece) (c : Char) (rest : List Char) :
    Raw.piecesOnto acc (escape c ++ rest) = Raw.piecesOnto (Piece.ofChar c :: acc) rest := by
  by_cases hletter : c ∈ ['"', '\\', '\x08', '\x0c', '\n', '\r', '\t']
  · -- One of the characters that have a letter for their escape.
    simp only [List.mem_cons, List.not_mem_nil, or_false] at hletter
    rcases hletter with rfl | rfl | rfl | rfl | rfl | rfl | rfl <;> rfl
  · simp only [List.mem_cons, List.not_mem_nil, or_false, not_or] at hletter
    obtain ⟨hquote, hslash, hb, hf, hn, hr, ht⟩ := hletter
    unfold escape
    rw [if_neg hquote, if_neg hslash, if_neg hb, if_neg hf, if_neg hn, if_neg hr, if_neg ht]
    by_cases hcontrol : c < ' '
    · have hpiece : Piece.ofChar c = .unit c.toNat :=
        if_pos ⟨hcontrol, by simp [hb, hf, hn, hr, ht]⟩
      have hunit := unit?_control c.toNat hcontrol
      rw [if_pos hcontrol, hpiece]
      simp only [List.cons_append, List.nil_append, Raw.piecesOnto, hunit]
    · have hpiece : Piece.ofChar c = .char c := if_neg fun h => hcontrol h.1
      rw [if_neg hcontrol, hpiece]
      simp [Raw.piecesOnto, hslash, hcontrol]

/-- A text is read back from its quotes. -/
theorem piecesOnto_quoted (text : String) (rest : List Char) :
    Raw.piecesOnto [] (text.toList.flatMap escape ++ '"' :: rest) = some (pieces text, rest) := by
  have hall : ∀ (cs : List Char) (acc : List Piece),
      Raw.piecesOnto acc (cs.flatMap escape ++ '"' :: rest) =
        some (acc.reverse ++ cs.map Piece.ofChar, rest) := by
    intro cs
    induction cs with
    | nil => intro acc; simp [Raw.piecesOnto]
    | cons c cs ih =>
      intro acc
      rw [List.flatMap_cons, List.append_assoc, piecesOnto_escape, ih]
      simp
  exact hall text.toList []

/-- A unit below the surrogates is a character by itself, whatever follows. -/
theorem chars?_unit {u : Nat} (h : u < 0xD800) (rest : List Piece) :
    chars? (.unit u :: rest) = (chars? rest).map (Char.ofNat u :: ·) := by
  have hhigh : isHighSurrogate u = false := by simp [isHighSurrogate]; omega
  have hlow : isLowSurrogate u = false := by simp [isLowSurrogate]; omega
  cases rest with
  | nil => simp [chars?, hhigh, hlow]
  | cons piece rest => cases piece <;> simp [chars?, hhigh, hlow]

theorem chars?_ofChar (c : Char) (rest : List Piece) :
    chars? (Piece.ofChar c :: rest) = (chars? rest).map (c :: ·) := by
  unfold Piece.ofChar
  split
  · rename_i hcontrol
    have hsmall : c.toNat < 32 := hcontrol.1
    rw [chars?_unit (by omega), Char.ofNat_toNat]
  · rw [chars?]

/-- The pieces of a text make up the text. -/
theorem text?_pieces (text : String) : text? (pieces text) = some text := by
  have hall : ∀ cs : List Char, chars? (cs.map Piece.ofChar) = some cs := by
    intro cs
    induction cs with
    | nil => rfl
    | cons c cs ih =>
      rw [List.map_cons, chars?_ofChar, ih]
      rfl
  unfold text? pieces
  rw [hall, Option.map_some, String.ofList_toList]

/-! ## Numbers -/

/-- Whether a value may end where this text begins: at the end, a blank or a comma. -/
def Ends (rest : List Char) : Prop := ∀ c, rest.head? = some c → c = ',' ∨ Raw.isBlank c

theorem Ends.nil : Ends [] := fun _ h => nomatch h

theorem Ends.comma (rest : List Char) : Ends (',' :: rest) := by
  intro c h
  exact Or.inl (Option.some.inj h).symm

theorem Ends.newline (level : Nat) (rest : List Char) : Ends (newline level ++ rest) := by
  intro c h
  cases Option.some.inj h
  exact Or.inr rfl

theorem isDigit_of_mem_toDigits {n : Nat} {c : Char} (h : c ∈ Nat.toDigits 10 n) :
    Raw.isDigit c = true := by
  have hdigit := Nat.isDigit_of_mem_toDigits (by decide) (by decide) h
  simpa [Char.isDigit, Raw.isDigit, Char.le_def] using hdigit

/-- No number but zero begins with a zero. -/
theorem head?_toDigits {n : Nat} (h : (Nat.toDigits 10 n).head? = some '0') : n = 0 := by
  induction n using Nat.strongRecOn with
  | ind n ih =>
    rw [Nat.toDigits_eq_if (by decide)] at h
    split at h
    · simpa using h
    · rename_i hlarge
      rw [List.head?_append, List.head?_eq_some_head Nat.toDigits_ne_nil, Option.some_or,
        ← List.head?_eq_some_head] at h
      have hzero := ih (n / 10) (by omega) h
      omega

theorem digits?_toDigits (n : Nat) {rest : List Char} (h : Ends rest) :
    Raw.digits? (Nat.toDigits 10 n ++ rest) = some (Nat.toDigits 10 n, rest) := by
  have hrest : rest.takeWhile Raw.isDigit = [] ∧ rest.dropWhile Raw.isDigit = rest := by
    cases rest with
    | nil => exact ⟨rfl, rfl⟩
    | cons c rest =>
      have hc : Raw.isDigit c = false := by
        rcases h c rfl with rfl | hblank
        · rfl
        · simp only [Raw.isBlank, decide_eq_true_eq] at hblank
          rcases hblank with rfl | rfl | rfl | rfl <;> rfl
      simp [hc]
  have hall : ∀ c ∈ Nat.toDigits 10 n, Raw.isDigit c = true := fun c => isDigit_of_mem_toDigits
  unfold Raw.digits?
  rw [List.takeWhile_append_of_pos hall, List.dropWhile_append_of_pos hall, hrest.1, hrest.2,
    List.append_nil]
  split
  · rename_i hnil
    exact absurd hnil Nat.toDigits_ne_nil
  · rfl

theorem whole?_toDigits (n : Nat) {rest : List Char} (h : Ends rest) :
    Raw.whole? (Nat.toDigits 10 n ++ rest) = some (Nat.toDigits 10 n, rest) := by
  unfold Raw.whole?
  rw [digits?_toDigits n h]
  split
  · rename_i heq
    -- A zero in front of other digits would be the number zero, which has only one.
    have hzero : n = 0 := head?_toDigits (by rw [(Prod.mk.inj (Option.some.inj heq)).1]; rfl)
    subst hzero
    cases heq
  · rfl

/-- Nothing more of a number follows where a value may end. -/
theorem fraction?_of_ends {rest : List Char} (h : Ends rest) :
    Raw.fraction? rest = some (none, rest) := by
  unfold Raw.fraction?
  split
  · rename_i text
    rcases h '.' rfl with hc | hc <;> cases hc
  · rfl

theorem exponent?_of_ends {rest : List Char} (h : Ends rest) :
    Raw.exponent? rest = some (none, rest) := by
  cases rest with
  | nil => rfl
  | cons c rest =>
    have hc : ¬ (c = 'e' ∨ c = 'E') := by
      rintro (rfl | rfl) <;> rcases h _ rfl with hc | hc <;> cases hc
    exact if_neg hc

/-- The text of an integer: its sign and the digits of its absolute value. -/
theorem text_integer (n : Int) :
    (Number.integer n).text = (if n < 0 then ['-'] else []) ++ Nat.toDigits 10 n.natAbs := by
  unfold Number.text
  dsimp only
  rw [Int.toString_eq_repr]
  cases n with
  | ofNat n => simp [Int.repr]
  | negSucc n =>
    rw [if_pos (Int.negSucc_lt_zero n), Int.repr, String.toList_append, Nat.toList_repr]
    rfl

theorem literal?_integer (n : Int) {rest : List Char} (h : Ends rest) :
    Raw.literal? ((Number.integer n).text ++ rest) = some (.ofInt n, rest) := by
  obtain ⟨d, ds, hdigits⟩ : ∃ d ds, Nat.toDigits 10 n.natAbs = d :: ds :=
    List.exists_cons_of_ne_nil Nat.toDigits_ne_nil
  have hwhole := whole?_toDigits n.natAbs h
  rw [text_integer]
  unfold Raw.literal? Literal.ofInt
  by_cases hsign : n < 0
  · rw [if_pos hsign]
    simp [hwhole, fraction?_of_ends h, exponent?_of_ends h, hsign]
  · have hd : d ≠ '-' := by
      rintro rfl
      have := isDigit_of_mem_toDigits (n := n.natAbs) (c := '-') (hdigits ▸ List.mem_cons_self)
      cases this
    rw [if_neg hsign, List.nil_append]
    rw [hdigits] at hwhole ⊢
    have hread : Raw.whole? (d :: (ds ++ rest)) = some (d :: ds, rest) := hwhole
    simp [hd, hread, fraction?_of_ends h, exponent?_of_ends h, hsign]

/-- The text of an integer begins with a minus sign or a digit. -/
theorem text_integer_eq_cons (n : Int) :
    ∃ c cs, (Number.integer n).text = c :: cs ∧ (c = '-' ∨ Raw.isDigit c = true) := by
  obtain ⟨d, ds, hdigits⟩ : ∃ d ds, Nat.toDigits 10 n.natAbs = d :: ds :=
    List.exists_cons_of_ne_nil Nat.toDigits_ne_nil
  rw [text_integer, hdigits]
  split
  · exact ⟨_, _, rfl, Or.inl rfl⟩
  · exact ⟨_, _, rfl, Or.inr (isDigit_of_mem_toDigits (hdigits ▸ List.mem_cons_self))⟩

/-- An integer that fits in 64 bits is the number that its literal stands for. -/
theorem number_ofInt {n : Int} (hmin : minSigned ≤ n) (hmax : n ≤ maxUnsigned) :
    (Literal.ofInt n).number = .integer n := by
  have hdigits : ofDigits (Nat.toDigits 10 n.natAbs) = n.natAbs := Nat.ofDigitChars_ten_toDigits
  unfold Literal.number Literal.ofInt
  dsimp only
  rw [hdigits, if_neg (by simp)]
  by_cases hsign : n < 0
  · have habs : -(n.natAbs : Int) = n := by omega
    rw [habs, if_pos (decide_eq_true hsign), if_neg (by omega)]
  · have habs : (n.natAbs : Int) = n := by omega
    rw [habs, if_neg (by simpa using hsign), if_pos hmax]

/-! ## Values -/

/-- A value begins with a character that is not a blank, and does not begin like the end of an
    array. -/
theorem prettyChars_eq_cons {json : Json} (h : Integral json) (level : Nat) :
    ∃ c cs, prettyChars level json = c :: cs ∧ Raw.isBlank c = false ∧ c ≠ ']' := by
  cases h with
  | null => exact ⟨_, _, rfl, rfl, by decide⟩
  | bool value => cases value <;> exact ⟨_, _, rfl, rfl, by decide⟩
  | integer n =>
    obtain ⟨c, cs, htext, hc⟩ := text_integer_eq_cons n
    refine ⟨c, cs, htext, ?_, ?_⟩
    · cases hblank : Raw.isBlank c with
      | false => rfl
      | true =>
        simp only [Raw.isBlank, decide_eq_true_eq] at hblank
        rcases hblank with rfl | rfl | rfl | rfl <;> exact absurd hc (by decide)
    · rintro rfl
      exact absurd hc (by decide)
  | string text => exact ⟨_, _, rfl, rfl, by decide⟩
  | @array items h => cases items <;> exact ⟨_, _, rfl, rfl, by decide⟩
  | @object members h => cases members <;> exact ⟨_, _, rfl, rfl, by decide⟩

theorem skipBlanks_newline (level : Nat) (rest : List Char) :
    Raw.skipBlanks (newline level ++ rest) = Raw.skipBlanks rest := by
  have hblank : ∀ c ∈ newline level, Raw.isBlank c = true := by
    intro c hc
    rcases List.mem_cons.mp hc with rfl | hc
    · rfl
    · rw [(List.mem_replicate.mp hc).2]
      rfl
  exact List.dropWhile_append_of_pos hblank

theorem skipBlanks_cons {c : Char} (h : Raw.isBlank c = false) (rest : List Char) :
    Raw.skipBlanks (c :: rest) = c :: rest := by
  unfold Raw.skipBlanks
  rw [List.dropWhile_cons, h]
  rfl

namespace Raw

/-- Whether a value is read from the front of its text, whatever follows. -/
def Reads (json : Json) : Prop :=
  ∀ level fuel rest, (prettyChars level json).length ≤ fuel + 1 → Ends rest →
    value? (fuel + 1) (prettyChars level json ++ rest) = some (json.raw, rest)

theorem reads_string (text : String) : Reads (.string text) := by
  intro level fuel rest _ _
  show value? (fuel + 1) ('"' :: (text.toList.flatMap escape ++ ['"'] ++ rest)) = _
  rw [List.append_assoc, value?]
  rw [List.singleton_append, piecesOnto_quoted]
  rfl

theorem reads_null : Reads .null := by
  intro level fuel rest _ _
  rfl

theorem reads_bool (value : Bool) : Reads (.bool value) := by
  intro level fuel rest _ _
  cases value <;> rfl

theorem reads_integer (n : Int) : Reads (.number (.integer n)) := by
  intro level fuel rest _ hends
  obtain ⟨c, cs, htext, hc⟩ := text_integer_eq_cons n
  have hliteral := literal?_integer n hends
  show value? (fuel + 1) ((Number.integer n).text ++ rest) = _
  rw [htext] at hliteral ⊢
  rw [List.cons_append] at hliteral ⊢
  rw [value?, hliteral]
  · rfl
  -- No other kind of value begins with such a character.
  all_goals
    intro text heq
    cases heq
    exact absurd hc (by decide)

/-! ### Lists of values -/

/-- The first of several texts, each on a line of its own, and what follows it. -/
theorem lines_cons (level : Nat) (text : List Char) (texts : List (List Char)) (rest : List Char) :
    lines level (text :: texts) ++ rest =
      newline level ++ (text ++
        if texts = [] then rest else ',' :: (lines level texts ++ rest)) := by
  cases texts <;> simp [lines]

theorem length_lines_cons (level : Nat) (text : List Char) (texts : List (List Char)) :
    text.length + (lines level texts).length < (lines level (text :: texts)).length := by
  cases texts with
  | nil =>
    simp only [lines, newline, List.length_append, List.length_cons, List.length_nil]
    omega
  | cons next texts =>
    simp only [lines, newline, List.length_append, List.length_cons]
    omega

/-- The first text begins where the blanks in front of it end. -/
theorem skipBlanks_lines (level : Nat) {text : List Char} {c : Char} {cs : List Char}
    (htext : text = c :: cs) (hc : isBlank c = false) (texts : List (List Char))
    (rest : List Char) :
    skipBlanks (lines level (text :: texts) ++ rest) =
      text ++ if texts = [] then rest else ',' :: (lines level texts ++ rest) := by
  rw [lines_cons, skipBlanks_newline, htext, List.cons_append, skipBlanks_cons hc]

/-- Items that are read each from its text are read from the lines of an array. -/
theorem itemsOnto?_lines {items : List Json}
    (hitems : ∀ item ∈ items, Integral item ∧ Reads item) (hne : items ≠ [])
    (level outer fuel : Nat) (acc : List Raw) (rest : List Char)
    (hfuel : (lines level (items.map (prettyChars level))).length ≤ fuel) :
    itemsOnto? fuel acc (skipBlanks (lines level (items.map (prettyChars level)) ++
      (newline outer ++ ']' :: rest))) = some (acc.reverse ++ items.map raw, rest) := by
  induction items generalizing fuel acc with
  | nil => exact absurd rfl hne
  | cons item items ih =>
    obtain ⟨hintegral, hreads⟩ := hitems item List.mem_cons_self
    obtain ⟨c, cs, hitem, hblank, -⟩ := prettyChars_eq_cons hintegral level
    have hpos : 0 < (prettyChars level item).length := by rw [hitem]; exact Nat.zero_lt_succ _
    have hlength :=
      length_lines_cons level (prettyChars level item) (items.map (prettyChars level))
    rw [List.map_cons] at hfuel ⊢
    obtain ⟨fuel, rfl⟩ : ∃ n, fuel = n + 2 := ⟨fuel - 2, by omega⟩
    rw [skipBlanks_lines level hitem hblank]
    cases items with
    | nil =>
      rw [List.map_nil, if_pos rfl, itemsOnto?, hreads level fuel _ (by omega) (Ends.newline _ _)]
      dsimp only
      rw [skipBlanks_newline, skipBlanks_cons rfl]
      simp
    | cons next items =>
      have hrest := ih (fun item hitem => hitems item (List.mem_cons_of_mem _ hitem))
        (List.cons_ne_nil _ _) (fuel + 1) (item.raw :: acc) (by omega)
      rw [if_neg (by simp), itemsOnto?, hreads level fuel _ (by omega) (Ends.comma _)]
      dsimp only
      rw [skipBlanks_cons rfl]
      show itemsOnto? (fuel + 1) (item.raw :: acc) (skipBlanks _) = _
      rw [hrest]
      simp

/-- The text of a member: its name, and the value behind a colon and a space. -/
theorem memberChars_eq_cons (level : Nat) (member : String × Json) :
    memberChars level member = '"' :: (member.1.toList.flatMap escape ++
      '"' :: ':' :: ' ' :: prettyChars level member.2) := by
  simp [memberChars, quoted]

/-- A member is read, and then a comma with more members or a closing brace. -/
theorem membersOnto?_memberChars {member : String × Json} (hintegral : Integral member.2)
    (hreads : Reads member.2) {level fuel : Nat} {rest : List Char} (hends : Ends rest)
    (hfuel : (prettyChars level member.2).length ≤ fuel + 1) (acc : List (List Piece × Raw)) :
    (∀ more, skipBlanks rest = ',' :: more →
      membersOnto? (fuel + 2) acc (memberChars level member ++ rest) =
        membersOnto? (fuel + 1) ((pieces member.1, raw member.2) :: acc) (skipBlanks more)) ∧
    ∀ more, skipBlanks rest = '\x7d' :: more →
      membersOnto? (fuel + 2) acc (memberChars level member ++ rest) =
        some (((pieces member.1, raw member.2) :: acc).reverse, more) := by
  obtain ⟨c, cs, hvalue, hblank, -⟩ := prettyChars_eq_cons hintegral level
  have hname : piecesOnto [] (member.1.toList.flatMap escape ++
      '"' :: ':' :: ' ' :: (prettyChars level member.2 ++ rest)) =
        some (pieces member.1, ':' :: ' ' :: (prettyChars level member.2 ++ rest)) :=
    piecesOnto_quoted member.1 _
  have hcolon : skipBlanks (':' :: ' ' :: (prettyChars level member.2 ++ rest)) =
      ':' :: ' ' :: (prettyChars level member.2 ++ rest) := skipBlanks_cons rfl _
  have hspace : skipBlanks (' ' :: (prettyChars level member.2 ++ rest)) =
      prettyChars level member.2 ++ rest := by
    rw [hvalue]
    exact skipBlanks_cons hblank _
  have hread := hreads level fuel rest hfuel hends
  rw [memberChars_eq_cons, List.cons_append, List.append_assoc]
  refine ⟨fun more hmore => ?_, fun more hmore => ?_⟩
  · simp only [membersOnto?, List.cons_append, hname, hcolon, hspace, hread, hmore]
  · simp only [membersOnto?, List.cons_append, hname, hcolon, hspace, hread, hmore]

/-- Members of which each value is read from its text are read from the lines of an object. -/
theorem membersOnto?_lines {members : List (String × Json)}
    (hmembers : ∀ member ∈ members, Integral member.2 ∧ Reads member.2) (hne : members ≠ [])
    (level outer fuel : Nat) (acc : List (List Piece × Raw)) (rest : List Char)
    (hfuel : (lines level (members.map (memberChars level))).length ≤ fuel) :
    membersOnto? fuel acc (skipBlanks (lines level (members.map (memberChars level)) ++
      (newline outer ++ '\x7d' :: rest))) =
      some (acc.reverse ++ members.map (fun member => (pieces member.1, raw member.2)), rest) := by
  induction members generalizing fuel acc with
  | nil => exact absurd rfl hne
  | cons member members ih =>
    obtain ⟨hintegral, hreads⟩ := hmembers member List.mem_cons_self
    have hmember := memberChars_eq_cons level member
    have hshort : (prettyChars level member.2).length + 2 < (memberChars level member).length := by
      rw [hmember]
      simp
      omega
    have hlength :=
      length_lines_cons level (memberChars level member) (members.map (memberChars level))
    rw [List.map_cons] at hfuel ⊢
    obtain ⟨fuel, rfl⟩ : ∃ n, fuel = n + 2 := ⟨fuel - 2, by omega⟩
    rw [skipBlanks_lines level hmember rfl]
    cases members with
    | nil =>
      have hclosed : skipBlanks (newline outer ++ '\x7d' :: rest) = '\x7d' :: rest := by
        rw [skipBlanks_newline, skipBlanks_cons rfl]
      rw [List.map_nil, if_pos rfl, (membersOnto?_memberChars hintegral hreads (Ends.newline _ _)
        (by omega) acc).2 rest hclosed]
      simp
    | cons next members =>
      have hrest := ih (fun member hmember => hmembers member (List.mem_cons_of_mem _ hmember))
        (List.cons_ne_nil _ _) (fuel + 1) ((pieces member.1, raw member.2) :: acc) (by omega)
      rw [if_neg (by simp), (membersOnto?_memberChars hintegral hreads (Ends.comma _)
        (by omega) acc).1 _ (skipBlanks_cons rfl _), hrest]
      simp

/-! ### Whole values -/

theorem reads_array {items : List Json}
    (hitems : ∀ item ∈ items, Integral item ∧ Reads item) : Reads (.array items) := by
  intro level fuel rest hfuel _
  cases items with
  | nil => rfl
  | cons item items =>
    have hchars : prettyChars level (.array (item :: items)) = '[' ::
        (lines (level + 1) ((item :: items).map (prettyChars (level + 1))) ++ newline level
          ++ [']']) := by
      rw [← prettyItems_eq_map]
      rfl
    obtain ⟨c, cs, hitem, hblank, hbracket⟩ :=
      prettyChars_eq_cons (hitems item List.mem_cons_self).1 (level + 1)
    have hlines := itemsOnto?_lines hitems (List.cons_ne_nil _ _) (level + 1) level fuel [] rest
      (by
        rw [hchars] at hfuel
        simp at hfuel ⊢
        omega)
    -- The first item does not begin like the end of the array.
    obtain ⟨after, hskip⟩ : ∃ after, skipBlanks (lines (level + 1)
        ((item :: items).map (prettyChars (level + 1))) ++ (newline level ++ ']' :: rest)) =
        c :: after := by
      rw [List.map_cons, skipBlanks_lines _ hitem hblank, hitem]
      exact ⟨_, rfl⟩
    rw [hskip] at hlines
    rw [hchars, List.cons_append, value?, List.append_assoc, List.append_assoc,
      List.singleton_append, hskip]
    split
    · rename_i heq
      exact absurd (List.cons.inj heq).1 hbracket
    · rw [hlines]
      simp [Json.raw, rawItems_eq_map]

theorem reads_object {members : List (String × Json)}
    (hmembers : ∀ member ∈ members, Integral member.2 ∧ Reads member.2) :
    Reads (.object members) := by
  intro level fuel rest hfuel _
  cases members with
  | nil => rfl
  | cons member members =>
    have hchars : prettyChars level (.object (member :: members)) = '\x7b' ::
        (lines (level + 1) ((member :: members).map (memberChars (level + 1))) ++ newline level
          ++ ['\x7d']) := by
      rw [← prettyMembers_eq_map]
      rfl
    have hlines := membersOnto?_lines hmembers (List.cons_ne_nil _ _) (level + 1) level fuel [] rest
      (by
        rw [hchars] at hfuel
        simp at hfuel ⊢
        omega)
    -- A member begins with the quote of its name.
    obtain ⟨after, hskip⟩ : ∃ after, skipBlanks (lines (level + 1)
        ((member :: members).map (memberChars (level + 1))) ++ (newline level ++ '\x7d' :: rest)) =
        '"' :: after := by
      rw [List.map_cons, skipBlanks_lines _ (memberChars_eq_cons _ member) rfl, memberChars_eq_cons]
      exact ⟨_, rfl⟩
    rw [hskip] at hlines
    rw [hchars, List.cons_append, value?, List.append_assoc, List.append_assoc,
      List.singleton_append, hskip]
    split
    · rename_i heq
      exact absurd (List.cons.inj heq).1 (by decide)
    · rw [hlines]
      simp [Json.raw, rawMembers_eq_map]

/-- A value that holds only integers is read from the front of its text, whatever follows. -/
theorem reads {json : Json} (h : Integral json) : Reads json := by
  induction h with
  | null => exact reads_null
  | bool value => exact reads_bool value
  | integer n => exact reads_integer n
  | string text => exact reads_string text
  | @array items h ih => exact reads_array fun item hitem => ⟨h item hitem, ih item hitem⟩
  | @object members h ih =>
    exact reads_object fun member hmember => ⟨h member hmember, ih member hmember⟩

/-- The text of a value that holds only integers is read into the tree of the value. -/
theorem ofText?_pretty {json : Json} (h : Integral json) : ofText? json.pretty = some json.raw := by
  obtain ⟨c, cs, hchars, hblank, -⟩ := prettyChars_eq_cons h 0
  have hvalue := reads h 0 (prettyChars 0 json).length [] (Nat.le_succ _) Ends.nil
  rw [List.append_nil] at hvalue
  unfold ofText? pretty
  dsimp only
  rw [String.toList_ofList]
  have hskip : skipBlanks (prettyChars 0 json) = prettyChars 0 json := by
    rw [hchars]
    exact skipBlanks_cons hblank cs
  rw [hskip, hvalue]
  rfl

end Raw

end DeviceEnablement.Json
