import Palette.Commands.Reply
import Palette.Telnet.Arrival

/-!
# The settings and their types

Every setting has a default, and the default tells the type of the setting: a whole
number, a truth value or a text. A default that is a dictionary may give the type itself
and may keep the setting out of a new table.

A cast turns a value of any kind into a value of the setting's type. The table stores the
text of what a cast returned, and a lookup casts the stored text again. The driver of the
database returns stored texts as Unicode, of which `str()` only takes the plain part.
-/

namespace Palette.Settings

open Palette.Telnet (Text isSpace isAscii strip strip_infix strip_of_none digits_plain)
open Palette.Commands (Failure digitsValue digitsValue_toDigits)

/-- The types of settings. -/
inductive DataType where
  | int
  | bool
  | str
  deriving DecidableEq, Repr

/-- A value of a setting, as the defaults have it and as a cast returns it. -/
inductive Setting where
  | none
  | bool (flag : Bool)
  | int (number : Int)
  | str (text : Text)
  deriving DecidableEq, Repr

/-- An entry of `DEFAULTS`. A dictionary may give the type and whether a new table has a
row for the setting. -/
inductive Default where
  | plain (value : Setting)
  | dict (value : Setting) (dataType : Option DataType) (populate : Option Bool)
  deriving DecidableEq, Repr

/-- What a caller passes to be stored. A byte string and a number are settings already; a
Unicode text is given by its bytes. An object of another class is what `int()` and `str()`
make of it and whether it counts as true. -/
inductive Value where
  | plain (value : Setting)
  | unicode (text : Text)
  | object (number : Except Failure Int) (shown : Except Failure Text) (truthy : Bool)

/-- What lies outside: which texts the database takes, and which Unicode texts `int()`
takes besides those that it takes as byte strings. -/
structure Platform where
  accepts : Text → Bool
  unicodeInt : Text → Option Int

/-! ## The defaults -/

/-- `UNDEFINED_INTEGER`. -/
def undefinedInteger : Default := .dict .none (some .int) none

/-- `UNPOPULATED_TRUE`. -/
def unpopulatedTrue : Default := .dict (.bool true) none (some false)

/-- `UNPOPULATED_FALSE`. -/
def unpopulatedFalse : Default := .dict (.bool false) none (some false)

/-- `HTTP_LOAD_RE`. -/
def httpLoadRe : Setting :=
  .str ".+(\\.(xml|png|pdf)(\\Z|\\?)|format=(xml|png|pdf))".toList

/-- `DEFAULTS`. -/
def defaults : List (String × Default) := [
  ("disk-watermark-low", .plain (.int 101)),
  ("disk-watermark-high", .plain (.int 101)),
  ("storage-encrypt", .plain (.bool false)),
  ("archive-save-twbx", .plain (.bool true)),
  ("workbooks-as-twb", .plain (.bool false)),
  ("workbook-archive-enabled", .plain (.bool false)),
  ("workbook-load-warn", .plain (.int 0)),
  ("workbook-load-error", .plain (.int 0)),
  ("workbook-retain-count", .plain (.int 0)),
  ("backup-user-retain-count", .plain (.int 1)),
  ("backup-auto-retain-count", .plain (.int 1)),
  ("backup-scheduled-period", .plain (.int 24)),
  ("backup-scheduled-hour", .plain (.int 12)),
  ("backup-scheduled-minute", .plain (.str "00".toList)),
  ("backup-scheuled-ampm", .plain (.str "AM".toList)),
  ("backup-scheduled-enabled", .plain (.bool true)),
  ("backup-dest-type", .plain (.str "vol".toList)),
  ("backup-dest-id", undefinedInteger),
  ("ziplog-enabled", unpopulatedTrue),
  ("ziplog-scheduled-enabled", unpopulatedTrue),
  ("ziplog-user-retain-count", .plain (.int 1)),
  ("ziplog-auto-retain-count", .plain (.int 1)),
  ("log-archive-retain-count", .plain (.int 1)),
  ("extract-duration-warn", .plain (.int 0)),
  ("extract-duration-error", .plain (.int 0)),
  ("extract-delay-warn", .plain (.int 0)),
  ("extract-delay-error", .plain (.int 0)),
  ("extract-refresh-wb-retain-count", .plain (.int 0)),
  ("extract-refresh-ds-retain-count", .plain (.int 0)),
  ("http-load-warn", .plain (.int 0)),
  ("http-load-error", .plain (.int 0)),
  ("http-load-re", .plain httpLoadRe),
  ("datasource-archive-enabled", .plain (.bool false)),
  ("datasource-retain-count", .plain (.int 0)),
  ("datasource-save-tdsx", .plain (.bool true)),
  ("ping-request-interval", .plain (.int 30)),
  ("socket-timeout", .plain (.int 60)),
  ("ssl-handshake-timeout", .plain (.int 5)),
  ("event-degraded-min", .plain (.int 30)),
  ("status-request-interval", .plain (.int 30)),
  ("status-systeminfo", .plain (.bool true)),
  ("status-systeminfo-only", .plain (.bool false)),
  ("status-systeminfo-send-alerts", .plain (.bool false)),
  ("status-systeminfo-timeout-ms", .plain (.int 15000)),
  ("tabcmd-timeout", .plain (.int 600)),
  ("alerts-enabled", .plain (.bool true)),
  ("alerts-admin-enabled", .plain (.bool false)),
  ("alerts-publisher-enabled", .plain (.bool false)),
  ("alerts-new-user-enabled", .plain (.bool false)),
  ("cpu-load-warn", .plain (.int 101)),
  ("cpu-load-error", .plain (.int 101)),
  ("cpu-period-warn", .plain (.int 60)),
  ("cpu-period-error", .plain (.int 60)),
  ("metric-save-days", .plain (.int 735)),
  ("max-silence-time", .plain (.int (72 * 60 * 60))),
  ("upgrading", .plain (.bool false)),
  ("debug-level", .plain (.str "DEBUG".toList)),
  ("controller-initial-start", unpopulatedFalse),
  ("palette-version", .plain .none),
  ("authentication-type", .plain (.int 1)),
  ("active-directory-agent", .plain .none),
  ("palette-login", .plain (.bool true)),
  ("support-enabled", .plain (.bool false)),
  ("auto-update-enabled", .plain (.bool true)),
  ("from-email", .plain (.str "".toList)),
  ("email-max-count", .plain (.int 10)),
  ("email-spike-disabled-alerts", unpopulatedFalse),
  ("email-lookback-minutes", .plain (.int 10)),
  ("email-mute-reconnect-seconds", .plain (.int 0)),
  ("mail-server-type", .plain (.int 3)),
  ("mail-smtp-server", .plain .none),
  ("mail-smtp-port", undefinedInteger),
  ("mail-username", .plain .none),
  ("mail-password", .plain .none),
  ("mail-domain", .plain .none),
  ("mail-enable-tls", unpopulatedFalse),
  ("server-url", .plain (.str "https://localhost".toList)),
  ("tableau-server-url", .plain .none),
  ("tableau-internal-server-url", .plain .none),
  ("timezone", .plain (.str "US/Pacific".toList)),
  ("proxy-https", .plain .none),
  ("company-name", .plain .none),
  ("state", .plain (.str "DISCONNECTED".toList)),
  ("s3-id", undefinedInteger),
  ("gcs-id", undefinedInteger),
  ("support-case-bucket", .plain (.str "palette-support-case".toList)),
  ("support-case-email", .plain (.str "support@tableau.com".toList)),
  ("anonymous-access-key", .plain (.str "".toList)),
  ("anonymous-secret-key", .plain (.str "".toList)),
  ("platform-product", .dict (.str "enterprise".toList) none (some false)),
  ("platform-image", .dict (.str "vmware".toList) none (some false)),
  ("platform-location", .dict (.str "customer".toList) none (some false)),
  ("auth-timestamp", .plain .none),
  ("yml-location", .plain .none),
  ("yml-timestamp", .plain .none)]

/-- `DEFAULTS[key]`. -/
def defaultOf (key : Text) : Except Failure Default :=
  match defaults.find? (·.1.toList = key) with
  | some entry => .ok entry.2
  | none => .error ⟨.keyError, String.ofList key⟩

/-- `key in DEFAULTS`. -/
def isKnown (key : Text) : Bool := defaults.any (·.1.toList = key)

/-- `base_data_type` of a value that is no dictionary. -/
def baseDataType : Setting → DataType
  | .none | .str _ => .str
  | .bool _ => .bool
  | .int _ => .int

namespace Default

/-- The type that a default tells. -/
def type : Default → DataType
  | plain value => baseDataType value
  | dict _ (some dataType) _ => dataType
  | dict value none _ => baseDataType value

/-- `SystemDefaults.default`. -/
def value : Default → Setting
  | plain value => value
  | dict value _ _ => value

/-- A new table gets a row for the setting. A dictionary without a choice does. -/
def populated : Default → Bool
  | plain value => value ≠ .none
  | dict value _ populate => populate ≠ some false && value ≠ .none

end Default

/-- `SystemDefaults.data_type`. -/
def dataType (key : Text) : Except Failure DataType := do
  return (← defaultOf key).type

/-! ## Conversions -/

/-- A text of plain characters only. -/
def isPlain (text : Text) : Bool := text.all isAscii

/-- `str()` of a whole number. -/
def intText (number : Int) : Text :=
  if number < 0 then '-' :: Nat.toDigits 10 number.natAbs else Nat.toDigits 10 number.natAbs

/-- `str()` of a setting. -/
def Setting.shown : Setting → Text
  | none => "None".toList
  | bool true => "True".toList
  | bool false => "False".toList
  | int number => intText number
  | str text => text

/-- The truth of a setting as a condition. -/
def Setting.truthy : Setting → Bool
  | none => false
  | bool flag => flag
  | int number => number ≠ 0
  | str text => text ≠ []

/-- `int()` of a byte string. Blanks may also stand between the sign and the digits. -/
def intOfText (text : Text) : Option Int :=
  match strip text with
  | '-' :: digits => (digitsValue (digits.dropWhile isSpace)).map fun value : Nat => -(value : Int)
  | '+' :: digits => (digitsValue (digits.dropWhile isSpace)).map Int.ofNat
  | digits => (digitsValue digits).map Int.ofNat

/-- `int()` of a Unicode text. -/
def intOfUnicode (platform : Platform) (text : Text) : Option Int :=
  (intOfText text).orElse fun _ => platform.unicodeInt text

/-- The exception of `int()` for a text that is no number. -/
def invalidLiteral : Failure := ⟨.valueError, "invalid literal for int() with base 10"⟩

namespace Value

/-- The truth of a value as a condition. -/
def truthy : Value → Bool
  | plain value => value.truthy
  | unicode text => text ≠ []
  | object _ _ truthy => truthy

/-- `value is None`. -/
def isNone : Value → Bool
  | plain .none => true
  | _ => false

/-- `str()` of a value. -/
def toStr : Value → Except Failure Text
  | plain value => .ok value.shown
  | unicode text =>
    if isPlain text then .ok text
    else .error ⟨.valueError, "'ascii' codec can't encode characters"⟩
  | object _ shown _ => shown

/-- `int()` of a value. -/
def toInt (platform : Platform) : Value → Except Failure Int
  | plain .none => .error ⟨.typeError, "int() argument must be a string or a number"⟩
  | plain (.bool flag) => .ok (if flag then 1 else 0)
  | plain (.int number) => .ok number
  | plain (.str text) =>
    match intOfText text with
    | some number => .ok number
    | none => .error invalidLiteral
  | unicode text =>
    match intOfUnicode platform text with
    | some number => .ok number
    | none => .error invalidLiteral
  | object number _ _ => number

/-- `str2bool`. -/
def str2bool (value : Value) : Except Failure Bool :=
  if value.truthy then do
    let lower := (← value.toStr).map Char.toLower
    return lower = "true".toList || lower = "1".toList || lower = "yes".toList
  else .ok false

/-- A value of any kind as a value of a type. -/
def convert (platform : Platform) (value : Value) : DataType → Except Failure Setting
  | .bool => Setting.bool <$> value.str2bool
  | .int => Setting.int <$> value.toInt platform
  | .str => Setting.str <$> value.toStr

end Value

/-- `cast`. No value stays no value, also for an unknown key. -/
def cast (platform : Platform) (key : Text) (value : Value) : Except Failure Setting :=
  match value with
  | .plain .none => .ok .none
  | value => do value.convert platform (← dataType key)

/-! ## Reading back what was stored -/

/-- No digit of a number is a sign. -/
theorem toDigits_no_sign (number : Nat) {sign : Char} (noDigit : sign.isDigit = false) :
    sign ∉ Nat.toDigits 10 number := by
  intro member
  have digit : sign.isDigit = true :=
    Nat.isDigit_of_mem_toDigits (by decide) (by decide) member
  exact absurd digit (by simp [noDigit])

/-- A text without a sign is read as digits. -/
theorem intOfText_of_unsigned {text : Text} (stripped : strip text = text)
    (noMinus : '-' ∉ text) (noPlus : '+' ∉ text) :
    intOfText text = (digitsValue text).map Int.ofNat := by
  unfold intOfText
  rw [stripped]
  split
  · exact absurd List.mem_cons_self noMinus
  · exact absurd List.mem_cons_self noPlus
  · rfl

/-- The text of a whole number is read as that number. -/
@[simp] theorem intOfText_intText (number : Int) : intOfText (intText number) = some number := by
  have noBlank : ∀ char ∈ Nat.toDigits 10 number.natAbs, isSpace char = false :=
    fun char member => (digits_plain _ char member).2.1
  by_cases negative : number < 0
  · have stripped : strip ('-' :: Nat.toDigits 10 number.natAbs) =
        '-' :: Nat.toDigits 10 number.natAbs := by
      refine strip_of_none fun char member => ?_
      rcases List.mem_cons.mp member with rfl | inside
      · decide
      · exact noBlank char inside
    have kept : (Nat.toDigits 10 number.natAbs).dropWhile isSpace =
        Nat.toDigits 10 number.natAbs := by
      cases digits : Nat.toDigits 10 number.natAbs with
      | nil => rfl
      | cons char rest =>
        have first : isSpace char = false := noBlank char (by rw [digits]; exact List.mem_cons_self)
        simp [first]
    have value : -(number.natAbs : Int) = number := by omega
    simp only [intText, negative, ↓reduceIte, intOfText, stripped, kept, digitsValue_toDigits,
      Option.map_some, value]
  · have value : (number.natAbs : Int) = number := by omega
    simp only [intText, negative, ↓reduceIte]
    rw [intOfText_of_unsigned (strip_of_none noBlank) (toDigits_no_sign _ (by decide))
      (toDigits_no_sign _ (by decide)), digitsValue_toDigits]
    simp only [Option.map_some, Int.ofNat_eq_natCast, value]

/-- The text of a whole number is plain. -/
@[simp] theorem isPlain_intText (number : Int) : isPlain (intText number) = true := by
  have digits : (Nat.toDigits 10 number.natAbs).all isAscii = true :=
    List.all_eq_true.mpr fun char member => (digits_plain _ char member).2.2
  have sign : isAscii '-' = true := by decide
  unfold isPlain intText
  split <;> simp [digits, sign]

/-- What a byte string is as a whole number, the same Unicode text is too. -/
theorem intOfUnicode_of_text {platform : Platform} {text : Text} {number : Int}
    (read : intOfText text = some number) : intOfUnicode platform text = some number := by
  simp [intOfUnicode, read]

/-- Digits and blanks are characters of ASCII. -/
theorem isAscii_of_digit_or_space {char : Char}
    (kind : char.isDigit = true ∨ isSpace char = true) : isAscii char = true := by
  rcases kind with digit | space
  · have high : char.toNat ≤ 57 := (Char.isDigit_iff_toNat.mp digit).2
    simp only [isAscii, decide_eq_true_eq]
    omega
  · have blanks : [' ', '\t', '\n', '\r', '\x0b', '\x0c'].all isAscii = true := by decide
    exact List.all_eq_true.mp blanks char (of_decide_eq_true space)

/-- Digits with blanks before them are plain. -/
theorem isPlain_of_digits {text : Text} {number : Nat}
    (read : digitsValue (text.dropWhile isSpace) = some number) : isPlain text = true := by
  refine List.all_eq_true.mpr fun char member => isAscii_of_digit_or_space ?_
  rw [← List.takeWhile_append_dropWhile (p := isSpace) (l := text)] at member
  rcases List.mem_append.mp member with before | inside
  · exact .inr (List.mem_takeWhile_imp before)
  · unfold digitsValue at read
    split at read
    next digits => exact .inl (List.all_eq_true.mp digits.2 char inside)
    next => cases read

/-- A byte string that is read as a whole number is plain. -/
theorem isPlain_of_intOfText {text : Text} {number : Int} (read : intOfText text = some number) :
    isPlain text = true := by
  obtain ⟨before, after, whole, front, back⟩ := strip_infix text
  have inside : isPlain (strip text) = true := by
    unfold intOfText at read
    split at read
    next digits stripped =>
      obtain ⟨value, digitsRead, -⟩ := Option.map_eq_some_iff.mp read
      have sign : isAscii '-' = true := by decide
      simpa [isPlain, stripped, sign] using isPlain_of_digits digitsRead
    next digits stripped =>
      obtain ⟨value, digitsRead, -⟩ := Option.map_eq_some_iff.mp read
      have sign : isAscii '+' = true := by decide
      simpa [isPlain, stripped, sign] using isPlain_of_digits digitsRead
    next =>
      obtain ⟨value, digitsRead, -⟩ := Option.map_eq_some_iff.mp read
      unfold digitsValue at digitsRead
      split at digitsRead
      next digits =>
        exact List.all_eq_true.mpr fun char member =>
          isAscii_of_digit_or_space (.inl (List.all_eq_true.mp digits.2 char member))
      next => cases digitsRead
  have blanks (text : Text) (spaces : ∀ char ∈ text, isSpace char = true) :
      isPlain text = true :=
    List.all_eq_true.mpr fun char member => isAscii_of_digit_or_space (.inr (spaces char member))
  rw [whole]
  have first : before.all isAscii = true := blanks before front
  have last : after.all isAscii = true := blanks after back
  have middle : (strip text).all isAscii = true := inside
  simp only [isPlain, List.all_append, first, middle, last, Bool.and_self]

/-- The settings of a type: those that a cast of a value other than none returns. -/
def Setting.hasType : Setting → DataType → Bool
  | bool _, .bool | int _, .int | str _, .str => true
  | _, _ => false

/-- What a stored text reads back as. -/
def readText (platform : Platform) (text : Text) (dataType : DataType) : Except Failure Setting :=
  (Value.unicode text).convert platform dataType

variable {platform : Platform}

/-- A conversion returns a setting of the type. -/
theorem hasType_of_convert {value : Value} {dataType : DataType} {setting : Setting}
    (converted : value.convert platform dataType = .ok setting) :
    setting.hasType dataType = true := by
  cases dataType with
  | bool =>
    cases result : value.str2bool with
    | error failure => simp [Value.convert, result] at converted
    | ok flag =>
      simp only [Value.convert, result, Except.map_ok, Except.ok.injEq] at converted
      rw [← converted]
      rfl
  | int =>
    cases result : value.toInt platform with
    | error failure => simp [Value.convert, result] at converted
    | ok number =>
      simp only [Value.convert, result, Except.map_ok, Except.ok.injEq] at converted
      rw [← converted]
      rfl
  | str =>
    cases result : value.toStr with
    | error failure => simp [Value.convert, result] at converted
    | ok text =>
      simp only [Value.convert, result, Except.map_ok, Except.ok.injEq] at converted
      rw [← converted]
      rfl

/-- Every default has the type that it tells, or there is no default. -/
theorem default_hasType (entry : String × Default) (listed : entry ∈ defaults) :
    entry.2.value = .none ∨ entry.2.value.hasType entry.2.type = true := by
  have all : defaults.all (fun entry =>
      entry.2.value = .none || entry.2.value.hasType entry.2.type) = true := by decide
  simpa using List.all_eq_true.mp all entry listed

/-- Every default is a plain text when it is written. -/
theorem default_isPlain (entry : String × Default) (listed : entry ∈ defaults) :
    isPlain entry.2.value.shown = true := by
  have all : defaults.all (fun entry => isPlain entry.2.value.shown) = true := rfl
  exact List.all_eq_true.mp all entry listed

/-- A setting of a type that is written plainly reads back as itself. -/
theorem readText_shown {setting : Setting} {dataType : DataType}
    (typed : setting.hasType dataType = true) (plain : isPlain setting.shown = true) :
    readText platform setting.shown dataType = .ok setting := by
  cases setting with
  | none => cases dataType <;> cases typed
  | bool flag =>
    cases dataType with
    | bool => cases flag <;> rfl
    | int => cases typed
    | str => cases typed
  | int number =>
    cases dataType with
    | bool => cases typed
    | int =>
      have read : intOfUnicode platform (intText number) = some number :=
        intOfUnicode_of_text (intOfText_intText number)
      simp [readText, Value.convert, Value.toInt, Setting.shown, read]
    | str => cases typed
  | str text =>
    cases dataType with
    | bool => cases typed
    | int => cases typed
    | str =>
      have ascii : isPlain text = true := plain
      simp [readText, Value.convert, Value.toStr, Setting.shown, ascii]

/-- Only a text can be written other than plainly. -/
theorem isPlain_shown {setting : Setting} {dataType : DataType}
    (typed : setting.hasType dataType = true) (noText : dataType ≠ .str) :
    isPlain setting.shown = true := by
  cases setting with
  | none => decide
  | bool flag => cases flag <;> decide
  | int number => exact isPlain_intText number
  | str text =>
    cases dataType with
    | bool => cases typed
    | int => cases typed
    | str => exact absurd rfl noText

/-- A text that is not plain does not read back as a text. -/
theorem readText_str {text : Text} {setting : Setting}
    (read : readText platform text .str = .ok setting) : isPlain text = true := by
  by_contra noAscii
  simp [readText, Value.convert, Value.toStr, noAscii] at read

/-- A text that is not plain does not read back as a truth value. -/
theorem readText_bool {text : Text} {setting : Setting}
    (read : readText platform text .bool = .ok setting) : isPlain text = true := by
  by_contra noAscii
  have some : text ≠ [] := by
    rintro rfl
    exact noAscii rfl
  simp [readText, Value.convert, Value.str2bool, Value.truthy, Value.toStr, noAscii, some] at read

/-- A byte string reads back as what a cast makes of it exactly when it is plain. -/
theorem readText_iff {text : Text} {dataType : DataType} {setting : Setting}
    (converted : (Value.plain (.str text)).convert platform dataType = .ok setting) :
    readText platform text dataType = .ok setting ↔ isPlain text = true := by
  cases dataType with
  | bool =>
    refine ⟨readText_bool, fun ascii => ?_⟩
    simpa [readText, Value.convert, Value.str2bool, Value.truthy, Setting.truthy, Value.toStr,
      Setting.shown, ascii] using converted
  | int =>
    cases read : intOfText text with
    | none => simp [Value.convert, Value.toInt, read] at converted
    | some number =>
      have unicode : intOfUnicode platform text = some number := intOfUnicode_of_text read
      refine ⟨fun _ => isPlain_of_intOfText read, fun _ => ?_⟩
      simpa [readText, Value.convert, Value.toInt, read, unicode] using converted
  | str =>
    refine ⟨readText_str, fun ascii => ?_⟩
    simpa [readText, Value.convert, Value.toStr, Setting.shown, ascii] using converted

/-- What was converted and then stored reads back exactly when it was written plainly. -/
theorem readText_shown_iff {setting : Setting} {dataType : DataType}
    (typed : setting.hasType dataType = true) :
    readText platform setting.shown dataType = .ok setting ↔ isPlain setting.shown = true := by
  refine ⟨fun read => ?_, readText_shown typed⟩
  by_cases noText : dataType = .str
  · rw [noText] at read
    exact readText_str read
  · exact isPlain_shown typed noText

end Palette.Settings
