import JsonSchema.Pointer
import JsonSchema.Proofs.Locations

set_option autoImplicit false

/-! Pointers written for locations. A key is written with its percent signs, then its tildes, then its
slashes escaped, and an index in decimal. Reading undoes the three in the opposite order, so every
location of a document has a pointer that finds what stands there. -/

namespace JsonSchema

namespace Pointer

def replaceChar (char : Char) (replacement : List Char) (text : List Char) : List Char :=
  text.flatMap fun other => if other = char then replacement else [other]

def escape (key : List Char) : List Char :=
  replaceChar '/' ['~', '1'] (replaceChar '~' ['~', '0'] (replaceChar '%' ['%', '2', '5'] key))

def part : Step → List Char
  | .member name => escape name.toList
  | .element index => (toString index).toList

def written (path : List Step) : List Char := ['/'].intercalate (path.map part)

section Replacing

variable {char : Char} {replacement text : List Char}

@[simp] theorem replaceChar_cons_same :
    replaceChar char replacement (char :: text) = replacement ++ replaceChar char replacement text := by
  rw [replaceChar, List.flatMap_cons, if_pos rfl, replaceChar]

@[simp] theorem replaceChar_cons_other {other : Char} (different : other ≠ char) :
    replaceChar char replacement (other :: text) = other :: replaceChar char replacement text := by
  rw [replaceChar, List.flatMap_cons, if_neg different, replaceChar, List.singleton_append]

private theorem replaceChar_eq_nil_iff (something : replacement ≠ []) :
    replaceChar char replacement text = [] ↔ text = [] := by
  cases text with
  | nil => exact Iff.rfl
  | cons other rest =>
      by_cases same : other = char
      · subst same
        simp [something]
      · simp [same]

private theorem notMem_replaceChar (absent : char ∉ replacement) :
    char ∉ replaceChar char replacement text := by
  intro member
  obtain ⟨other, -, shown⟩ := List.mem_flatMap.mp member
  split at shown
  next => exact absent shown
  next different => exact different (List.mem_singleton.mp shown).symm

end Replacing

/-! ### Tildes -/

@[simp] theorem replaceTilde_cons {digit replacement first : Char} (plain : first ≠ '~') (rest : List Char) :
    replaceTilde digit replacement (first :: rest) =
      first :: replaceTilde digit replacement rest := by
  cases rest with
  | nil => rfl
  | cons second rest => rw [replaceTilde, if_neg fun both => plain both.1]

/-- Once the tildes are escaped, a tilde with a one behind it stands for a slash. -/
theorem replaceTilde_one (text : List Char) :
    replaceTilde '1' '/' (replaceChar '/' ['~', '1'] (replaceChar '~' ['~', '0'] text)) =
      replaceChar '~' ['~', '0'] text := by
  induction text with
  | nil => rfl
  | cons char rest ih =>
      by_cases tilde : char = '~'
      · subst tilde
        simp [replaceTilde, ih]
      · by_cases slash : char = '/'
        · subst slash
          simp [replaceTilde, ih]
        · simp [tilde, slash, ih]

private theorem replaceTilde_zero (text : List Char) :
    replaceTilde '0' '~' (replaceChar '~' ['~', '0'] text) = text := by
  induction text with
  | nil => rfl
  | cons char rest ih =>
      by_cases tilde : char = '~'
      · subst tilde
        simp [replaceTilde, ih]
      · simp [tilde, ih]

end Pointer

/-! ### Percent signs -/

namespace Text

private theorem percentDecodeBytes_cons {byte : UInt8} (plain : byte ≠ percentSign) (rest : List UInt8) :
    percentDecodeBytes (byte :: rest) = byte :: percentDecodeBytes rest := by
  match rest with
  | [] => rfl
  | [_] => rfl
  | _ :: _ :: _ => rw [percentDecodeBytes, if_neg plain]

private theorem percentDecodeBytes_append {bytes : List UInt8} (plain : ∀ byte ∈ bytes, byte ≠ percentSign)
    (rest : List UInt8) : percentDecodeBytes (bytes ++ rest) = bytes ++ percentDecodeBytes rest := by
  induction bytes with
  | nil => rfl
  | cons byte bytes ih =>
      obtain ⟨atByte, atBytes⟩ := List.forall_mem_cons.mp plain
      rw [List.cons_append, percentDecodeBytes_cons atByte, ih atBytes, List.cons_append]

private theorem ne_percentSign_of_mem {char : Char} (other : char ≠ '%') :
    ∀ byte ∈ String.utf8EncodeChar char, byte ≠ percentSign := by
  have different : char.val.toNat ≠ 0x25 := by
    intro same
    exact other (Char.ext (UInt32.toNat_inj.mp same))
  intro byte member equal
  have code : byte.toNat = 0x25 := congrArg UInt8.toNat equal
  simp only [String.utf8EncodeChar] at member
  generalize char.val.toNat = point at *
  split at member
  next =>
    obtain rfl := List.mem_singleton.mp member
    rw [UInt8.toNat_ofNat'] at code
    omega
  next =>
    split at member
    next =>
      simp only [List.mem_cons, List.not_mem_nil, or_false] at member
      obtain rfl | rfl := member <;> rw [UInt8.toNat_ofNat'] at code <;> omega
    next =>
      split at member
      all_goals
        simp only [List.mem_cons, List.not_mem_nil, or_false] at member
      next => obtain rfl | rfl | rfl := member <;> rw [UInt8.toNat_ofNat'] at code <;> omega
      next => obtain rfl | rfl | rfl | rfl := member <;> rw [UInt8.toNat_ofNat'] at code <;> omega

private theorem percentDecodeBytes_percent (rest : List UInt8) :
    percentDecodeBytes (['%', '2', '5'].flatMap String.utf8EncodeChar ++ rest) =
      String.utf8EncodeChar '%' ++ percentDecodeBytes rest := rfl

private theorem percentDecodeBytes_escaped (text : List Char) :
    percentDecodeBytes
        ((Pointer.replaceChar '%' ['%', '2', '5'] text).flatMap String.utf8EncodeChar) =
      text.flatMap String.utf8EncodeChar := by
  induction text with
  | nil => rfl
  | cons char rest ih =>
      by_cases percent : char = '%'
      · subst percent
        rw [Pointer.replaceChar_cons_same, List.flatMap_append, percentDecodeBytes_percent, ih,
          List.flatMap_cons]
      · simp [percent, percentDecodeBytes_append (ne_percentSign_of_mem percent), ih]

private theorem fromUTF8?_bytes (text : List Char) :
    String.fromUTF8? ⟨(text.flatMap String.utf8EncodeChar).toArray⟩ = some (String.ofList text) := by
  have bytes : (String.ofList text).toByteArray = ⟨(text.flatMap String.utf8EncodeChar).toArray⟩ :=
    ByteArray.ext List.data_toByteArray
  rw [← bytes]
  exact dif_pos (String.ofList text).isValidUTF8

private theorem percentDecode?_escaped (text : List Char) :
    percentDecode? (String.ofList (Pointer.replaceChar '%' ['%', '2', '5'] text)) =
      some (String.ofList text) := by
  rw [percentDecode?, String.toUTF8, String.toByteArray_ofList, List.utf8Encode,
    List.toList_data_toByteArray, percentDecodeBytes_escaped, fromUTF8?_bytes]

end Text

namespace Pointer

def token : Step → String
  | .member name => name
  | .element index => toString index

@[simp] theorem token?_escape (key : List Char) : token? (escape key) = some (String.ofList key) := by
  rw [token?, escape, replaceTilde_one, replaceTilde_zero, Text.percentDecode?_escaped]

@[simp] theorem toList_toString (index : Nat) : (toString index).toList = Nat.toDigits 10 index := by
  rw [Nat.toString_eq_repr, Nat.repr_eq_ofList_toDigits, String.toList_ofList]

private theorem isDigit_of_mem {index : Nat} {char : Char} (member : char ∈ (toString index).toList) :
    char.isDigit = true := by
  rw [toList_toString] at member
  exact Nat.isDigit_of_mem_toDigits (by decide) (by decide) member

private theorem notMem_digits {char : Char} (other : char.isDigit = false) (index : Nat) :
    char ∉ (toString index).toList := by
  intro member
  rw [isDigit_of_mem member] at other
  cases other

private theorem replaceChar_of_notMem {char : Char} {replacement text : List Char} (absent : char ∉ text) :
    replaceChar char replacement text = text := by
  induction text with
  | nil => rfl
  | cons other rest ih =>
      rw [List.mem_cons, not_or] at absent
      simp [Ne.symm absent.1, ih absent.2]

/-- Digits need no escape. -/
theorem part_eq_escape (step : Step) : part step = escape (token step).toList := by
  cases step with
  | member name => rfl
  | element index =>
      rw [token, escape, replaceChar_of_notMem (notMem_digits (by decide) index),
        replaceChar_of_notMem (notMem_digits (by decide) index),
        replaceChar_of_notMem (notMem_digits (by decide) index), part]

@[simp] theorem token?_part (step : Step) : token? (part step) = some (token step) := by
  simp [part_eq_escape]

private theorem slash_notMem_part (step : Step) : '/' ∉ part step := by
  rw [part_eq_escape]
  exact notMem_replaceChar (by decide)

@[simp] theorem escape_eq_nil_iff {key : List Char} : escape key = [] ↔ key = [] := by
  simp [escape, replaceChar_eq_nil_iff]

@[simp] theorem part_eq_nil_iff (step : Step) : part step = [] ↔ step = .member "" := by
  cases step with
  | member name => simp [part]
  | element index =>
      rw [part, toList_toString]
      exact iff_of_false Nat.toDigits_ne_nil nofun

/-! ### Parts and tokens -/

private theorem splitSlashes_of_notMem {part : List Char} (plain : '/' ∉ part) :
    splitSlashes part = [part] := by
  induction part with
  | nil => rfl
  | cons char rest ih =>
      rw [List.mem_cons, not_or] at plain
      rw [splitSlashes, if_neg (Ne.symm plain.1), ih plain.2]

private theorem splitSlashes_append {part : List Char} (plain : '/' ∉ part) (rest : List Char) :
    splitSlashes (part ++ '/' :: rest) = part :: splitSlashes rest := by
  induction part with
  | nil => rfl
  | cons char chars ih =>
      rw [List.mem_cons, not_or] at plain
      rw [List.cons_append, splitSlashes, if_neg (Ne.symm plain.1), ih plain.2]

private theorem splitSlashes_intercalate {parts : List (List Char)} (something : parts ≠ [])
    (plain : ∀ part ∈ parts, '/' ∉ part) : splitSlashes (['/'].intercalate parts) = parts := by
  induction parts with
  | nil => exact absurd rfl something
  | cons first rest ih =>
      obtain ⟨atFirst, atRest⟩ := List.forall_mem_cons.mp plain
      cases rest with
      | nil => exact (List.intercalate_singleton ▸ splitSlashes_of_notMem atFirst)
      | cons second rest =>
          rw [List.intercalate_cons_cons, List.append_assoc, List.singleton_append,
            splitSlashes_append atFirst, ih nofun atRest]

private theorem splitSlashes_written {path : List Step} (something : path ≠ []) :
    splitSlashes (written path) = path.map part := by
  apply splitSlashes_intercalate
  · exact mt List.map_eq_nil_iff.mp something
  · intro shown member
    obtain ⟨step, -, rfl⟩ := List.mem_map.mp member
    exact slash_notMem_part step

@[simp] theorem mapM_token?_part (path : List Step) :
    (path.map part).mapM token? = some (path.map token) := by
  induction path with
  | nil => rfl
  | cons step rest ih =>
      simp [ih]

private theorem tokens?_written {expression : List Char} {path : List Step} (something : path ≠ [])
    (keys : path.length = 1 ∨ .member "" ∉ path) (behind : dropSlash expression = written path) :
    tokens? expression = some (path.map token) := by
  have filled : ¬ (1 < (path.map part).length ∧ [] ∈ path.map part) := by
    rintro ⟨several, empty⟩
    obtain ⟨step, member, shown⟩ := List.mem_map.mp empty
    rw [(part_eq_nil_iff step).mp shown] at member
    rw [List.length_map] at several
    exact keys.elim (by omega) fun absent => absent member
  simp only [tokens?, behind, splitSlashes_written something, if_neg filled,
    mapM_token?_part]

private theorem dropSlash_cons {char : Char} (plain : char ≠ '/') (rest : List Char) :
    dropSlash (char :: rest) = char :: rest := by
  unfold dropSlash
  split
  next rest same => exact absurd (List.cons.inj same).1 plain
  next => rfl

private theorem written_begins {step : Step} (filled : step ≠ .member "") (rest : List Step) :
    ∃ char more, char ≠ '/' ∧ written (step :: rest) = char :: more := by
  obtain ⟨char, chars, shown⟩ := List.exists_cons_of_ne_nil (mt (part_eq_nil_iff step).mp filled)
  have plain : char ≠ '/' := by
    rintro rfl
    exact slash_notMem_part step (shown ▸ List.mem_cons_self)
  cases rest with
  | nil => exact ⟨char, chars, plain, List.intercalate_singleton.trans shown⟩
  | cons next rest =>
      refine ⟨char, chars ++ ['/'] ++ written (next :: rest), plain, ?_⟩
      rw [written, List.map_cons, List.map_cons, List.intercalate_cons_cons, shown]
      rfl

/-! ### Following the tokens -/

private theorem natOfDigits_toDigits (index : Nat) : Text.natOfDigits (Nat.toDigits 10 index) = index := by
  have read := Nat.ofDigitChars_toDigits (b := 10) (n := index) (by decide) (by decide)
  simp only [Nat.ofDigitChars, Nat.mul_comm 10] at read
  exact read

private theorem index?_toString {index : Nat} (bound : index < 0x10000000000000000) :
    index? (toString index) = some index := by
  have written : (toString index).toList.isEmpty = false := by
    rw [toList_toString]
    exact List.isEmpty_eq_false_iff.mpr Nat.toDigits_ne_nil
  have digits : (toString index).toList.all Char.isDigit = true :=
    List.all_eq_true.mpr fun _ => isDigit_of_mem
  rw [index?]
  dsimp only
  split
  next rest shown => exact absurd (shown ▸ List.mem_cons_self) (notMem_digits (by decide) index)
  next =>
    rw [written, digits, toList_toString, natOfDigits_toDigits]
    simp only [Bool.not_true, Bool.or_self, Bool.false_eq_true, if_false, if_pos bound]

private theorem step?_token {step : Step} {value part : Json} (found : value.part? step = some part)
    (bound : ∀ index, step = .element index → index < 0x10000000000000000) :
    step? (token step) value = some part := by
  cases step with
  | member name =>
      obtain ⟨members, rfl, found⟩ := Json.member_of_part? found
      exact found
  | element index =>
      obtain ⟨elements, rfl, found⟩ := Json.element_of_part? found
      rw [step?, token, index?_toString (bound index rfl)]
      exact found

private theorem walk_tokens {pointer : String} {path : List Step} {document value : Json}
    (found : document.at? path = some value)
    (bound : ∀ index, Step.element index ∈ path → index < 0x10000000000000000) :
    walk pointer (path.map token) document = .ok value := by
  induction path generalizing document with
  | nil => exact congrArg Except.ok (Option.some.inj found)
  | cons step rest ih =>
      rw [Json.at?] at found
      obtain ⟨part, atStep, found⟩ := Option.bind_eq_some_iff.mp found
      have next := step?_token atStep fun index same => bound index (same ▸ List.mem_cons_self)
      rw [List.map_cons, walk, next]
      exact ih found fun index member => bound index (List.mem_cons_of_mem _ member)

section Resolving

variable {document value : Json} {path : List Step}

private theorem resolve_of_dropSlash {expression : List Char} (something : path ≠ [])
    (keys : path.length = 1 ∨ .member "" ∉ path) (found : document.at? path = some value)
    (bound : ∀ index, Step.element index ∈ path → index < 0x10000000000000000)
    (nonempty : expression ≠ []) (behind : dropSlash expression = written path) :
    resolve document (String.ofList ('#' :: expression)) = .ok value := by
  obtain ⟨char, chars, rfl⟩ := List.exists_cons_of_ne_nil nonempty
  have tokens := tokens?_written something keys behind
  simp only [resolve, String.toList_ofList, tokens, walk_tokens found bound]

/-- The pointer written for a location finds what stands there, with a slash before the first part or,
unless that part is empty, without one. A location of several steps has no empty key, and its indices
are those that an array in memory can have. -/
theorem resolve_written (something : path ≠ []) (keys : path.length = 1 ∨ .member "" ∉ path)
    (bound : ∀ index, Step.element index ∈ path → index < 0x10000000000000000)
    (found : document.at? path = some value) :
    resolve document (String.ofList ('#' :: '/' :: written path)) = .ok value ∧
      (path.head? ≠ some (.member "") →
        resolve document (String.ofList ('#' :: written path)) = .ok value) := by
  constructor
  · exact resolve_of_dropSlash something keys found bound nofun rfl
  · intro filled
    obtain ⟨step, rest, rfl⟩ := List.exists_cons_of_ne_nil something
    have begins : step ≠ .member "" := fun same => filled (congrArg some same)
    obtain ⟨char, more, plain, shown⟩ := written_begins begins rest
    rw [shown]
    exact resolve_of_dropSlash something keys found bound nofun
      ((dropSlash_cons plain more).trans shown.symm)

end Resolving

def escapesDocument : Json :=
  .object [("~1/%2F", .array [.null, .object [("0", .string "%7E")]])]

theorem resolve_written_escapes :
    resolve escapesDocument "#/~01~1%252F/1/0" = .ok (.string "%7E") ∧
      resolve escapesDocument "#~01~1%252F/1/0" = .ok (.string "%7E") := by
  have found : escapesDocument.at? [.member "~1/%2F", .element 1, .member "0"] =
      some (.string "%7E") := by rfl
  have bound : ∀ index, Step.element index ∈ [.member "~1/%2F", .element 1, .member "0"] →
      index < 0x10000000000000000 := by
    intro index member
    simp only [List.mem_cons, List.not_mem_nil, reduceCtorEq, Step.element.injEq, or_false,
      false_or] at member
    omega
  obtain ⟨slashed, bare⟩ := resolve_written (by decide) (Or.inr (by decide)) bound found
  exact ⟨slashed, bare (by decide)⟩

end Pointer

end JsonSchema
