import IiifImage.Backend.Operations

/-!
# Output formats of the ImageIO backend

The repository looks for a writer name that is an extension of the format, while `convert`
asks for a writer by the name of the enumeration constant and `toByteArray` by the format
name of the image.
-/

namespace IiifImage.JAIImage

open Java

variable {δ α : Type} {io : ImageIo δ α} {format : ImageFormat} {self : JAIImage α}
variable {image : BufferedImage α}

/-! ## Format names -/

/-- The name of a format is one of its extensions. -/
theorem getFormatFromString_name (format : ImageFormat) :
    getFormatFromString format.name = some format := by
  cases format <;> decide

/-- Writers are found whatever the letter case of the name. -/
theorem findsWriter_toLowerCase (io : ImageIo δ α) (format : ImageFormat) :
    findsWriter io (Text.toLowerCase format.name) = findsWriter io format.name := by
  have folded : (Text.toLowerCase format.name).map Text.foldChar =
      format.name.map Text.foldChar := by
    cases format <;> decide
  have same : Text.equalsIgnoreCase (Text.toLowerCase format.name) =
      Text.equalsIgnoreCase format.name := by
    funext registered
    rw [Text.equalsIgnoreCase, folded, ← Text.equalsIgnoreCase]
  rw [findsWriter, same, ← findsWriter]

theorem write_of_findsWriter {formatName : JString} (finds : findsWriter io formatName = true) :
    write io image formatName = io.encode image formatName :=
  if_pos finds

theorem write_of_not_findsWriter {formatName : JString}
    (missing : findsWriter io formatName = false) :
    write io image formatName = .ok io.noData :=
  if_neg (Bool.not_eq_true _ ▸ missing)

/-! ## Conversions -/

/-- An image of the requested format is left alone. -/
theorem run_convert_of_same (same : getFormatFromString self.formatString = some format) :
    EStateM.run (convert io format) self = .ok ⟨⟩ self := by
  have current : EStateM.run getFormat self =
      .ok (getFormatFromString self.formatString) self := rfl
  rw [convert, Method.run_bind_ok current, if_neg (not_not.mpr same)]
  rfl

/-- Without an image there is nothing to write. -/
theorem run_convert_of_none (absent : self.image = none)
    (differs : getFormatFromString self.formatString ≠ some format) :
    EStateM.run (convert io format) self =
      .error (.illegalArgument (some "im == null!")) self := by
  have current : EStateM.run getFormat self =
      .ok (getFormatFromString self.formatString) self := rfl
  have refused : EStateM.run (writeArgument : Method Throwable (JAIImage α) _) self =
      .error (.illegalArgument (some "im == null!")) self := by
    simp only [writeArgument, Method.run_get_bind, absent, Method.run_throw]
  rw [convert, Method.run_bind_ok current, if_pos differs, Method.run_rethrow,
    Method.run_bind_error refused]
  rfl

/-- The object is not touched before the written image has been read back. -/
theorem run_convert_of_failure {exception : Throwable} (present : self.image = some image)
    (differs : getFormatFromString self.formatString ≠ some format)
    (thrown : write io image (Text.toLowerCase format.name) >>= read io = .error exception) :
    EStateM.run (convert io format) self = .error (convertFailure exception) self := by
  have current : EStateM.run getFormat self =
      .ok (getFormatFromString self.formatString) self := rfl
  rw [convert, Method.run_bind_ok current, if_pos differs, Method.run_rethrow,
    run_writeArgument_bind present]
  cases result : write io image (Text.toLowerCase format.name) with
  | error other =>
      rw [result] at thrown
      cases thrown
      rfl
  | ok data =>
      rw [result, Method.except_ok_bind] at thrown
      rw [Method.run_ofExcept_ok_bind, thrown]
      rfl

/-! ## Formats that are advertised -/

/-- The conversion throws a `TransformationException`, or leaves an image of the format that
`toByteArray` finds a writer for. -/
def Delivers (io : ImageIo δ α) (format : ImageFormat) (self : JAIImage α) : Prop :=
  match EStateM.run (convert io format) self with
  | .ok _ after =>
      after.image.isSome = true ∧ getFormatFromString after.formatString = some format ∧
        findsWriter io after.formatString = true
  | .error exception _ => exception.isTransformation = true

/-- What is delivered is encoded by a writer. -/
theorem run_toByteArray_of_delivers {after : JAIImage α} (delivers : Delivers io format self)
    (converted : EStateM.run (convert io format) self = .ok ⟨⟩ after) :
    ∃ image, after.image = some image ∧
      EStateM.run (toByteArray io) after =
        EStateM.run (Method.ofExcept (io.encode image after.formatString)) after := by
  rw [Delivers, converted] at delivers
  rcases delivers with ⟨present, -, finds⟩
  rcases Option.isSome_iff_exists.mp present with ⟨image, present⟩
  refine ⟨image, present, ?_⟩
  rw [toByteArray, run_writeArgument_bind present, Method.run_get_bind,
    write_of_findsWriter finds]

/-- What the writer makes of the image can be read back, or the failure is reported. -/
def Recodes (io : ImageIo δ α) (image : BufferedImage α) (formatName : JString) : Prop :=
  match io.encode image formatName >>= read io with
  | .ok converted => converted.isSome = true
  | .error exception => (convertFailure exception).isTransformation = true

/-- There is an image, and a writer under the name that will be asked for: the image's own
format name if that is a name of the format, and the name of the enumeration constant
otherwise. -/
def Writable (io : ImageIo δ α) (format : ImageFormat) (self : JAIImage α) : Prop :=
  ∃ image, self.image = some image ∧
    if getFormatFromString self.formatString = some format then
      findsWriter io self.formatString = true
    else
      findsWriter io format.name = true ∧ Recodes io image (Text.toLowerCase format.name)

theorem delivers_of_same (same : getFormatFromString self.formatString = some format) :
    Delivers io format self ↔
      self.image.isSome = true ∧ findsWriter io self.formatString = true := by
  rw [Delivers, run_convert_of_same same]
  dsimp only
  rw [and_iff_right same]

theorem not_delivers_of_none (absent : self.image = none) : ¬Delivers io format self := by
  by_cases same : getFormatFromString self.formatString = some format
  · rw [delivers_of_same same, absent]
    rintro ⟨present, -⟩
    cases present
  · rw [Delivers, run_convert_of_none absent same]
    exact Bool.false_ne_true

/-- An image of another format needs a writer that is known under the name of the constant. -/
theorem delivers_of_differs (empty : io.readerFor io.noData = none)
    (present : self.image = some image)
    (differs : getFormatFromString self.formatString ≠ some format) :
    Delivers io format self ↔
      findsWriter io format.name = true ∧ Recodes io image (Text.toLowerCase format.name) := by
  cases finds : findsWriter io format.name with
  | false =>
      rw [← findsWriter_toLowerCase] at finds
      have readBack : read io io.noData = .ok none := by
        rw [read, empty]
      rw [Delivers, run_convert_of_written present differs (write_of_not_findsWriter finds)
        readBack]
      simp
  | true =>
      have name := finds
      rw [← findsWriter_toLowerCase] at finds
      rw [Recodes, ← write_of_findsWriter finds, and_iff_right rfl]
      cases result : write io image (Text.toLowerCase format.name) >>= read io with
      | error exception =>
          rw [Delivers, run_convert_of_failure present differs result]
      | ok converted =>
          rcases Method.except_bind_eq_ok.mp result with ⟨data, output, readBack⟩
          rw [Delivers, run_convert_of_written present differs output readBack]
          dsimp only
          rw [getFormatFromString_name, name, and_iff_left ⟨rfl, rfl⟩]

theorem delivers_iff_writable (empty : io.readerFor io.noData = none) :
    Delivers io format self ↔ Writable io format self := by
  cases present : self.image with
  | none =>
      constructor
      · intro delivers
        exact absurd delivers (not_delivers_of_none present)
      · rintro ⟨image, some, -⟩
        rw [present] at some
        cases some
  | some image =>
      have same_image : Writable io format self ↔
          if getFormatFromString self.formatString = some format then
            findsWriter io self.formatString = true
          else
            findsWriter io format.name = true ∧
              Recodes io image (Text.toLowerCase format.name) := by
        simp only [Writable, present, Option.some.injEq, exists_eq_left']
      rw [same_image]
      split
      next same =>
        rw [delivers_of_same same, present]
        exact and_iff_right rfl
      next differs => exact delivers_of_differs empty present differs

/-- An advertised format is delivered exactly to the images that have a writer under the name
that is asked for. -/
theorem advertised_delivers_iff {δ α : Type} {io : ImageIo δ α}
    (empty : io.readerFor io.noData = none) (format : ImageFormat) (self : JAIImage α) :
    (ImageRepositoryImageIoImpl.supportsOutputFormat io format = true →
        Delivers io format self) ↔
      (ImageRepositoryImageIoImpl.supportsOutputFormat io format = true →
        Writable io format self) := by
  rw [delivers_iff_writable empty]

/-! ## Writers that are registered as `tiff` -/

/-- An installation with one writer, which is registered under the given names.  A file is
its format name and its image. -/
def registeredIo (names : List JString) :
    ImageIo (Option (JString × BufferedImage (ℕ × ℕ))) (ℕ × ℕ) where
  readerFor file := file.map fun written => { formatName := written.1, image := .ok written.2 }
  writerFormatNames := names
  encode image formatName := .ok (some (formatName, image))
  noData := none
  recolor _ := id
  scaler := Scaler.nearest

/-- An image that was read from a PNG file. -/
def pngImage : JAIImage (ℕ × ℕ) where
  image := some (.labelled 2 2 Nat.two_pos Nat.two_pos)
  formatString := ['p', 'n', 'g']

/-- With both names of the format registered the conversion works. -/
theorem advertised_delivers_tif :
    ImageRepositoryImageIoImpl.supportsOutputFormat
        (registeredIo [['t', 'i', 'f', 'f'], ['t', 'i', 'f']]) .tif = true ∧
      Delivers (registeredIo [['t', 'i', 'f', 'f'], ['t', 'i', 'f']]) .tif pngImage := by
  have supported : ImageRepositoryImageIoImpl.supportsOutputFormat
      (registeredIo [['t', 'i', 'f', 'f'], ['t', 'i', 'f']]) .tif = true := by decide
  have writable : Writable (registeredIo [['t', 'i', 'f', 'f'], ['t', 'i', 'f']]) .tif
      pngImage := by
    refine ⟨_, rfl, ?_⟩
    rw [if_neg (by decide)]
    exact ⟨by decide, rfl⟩
  exact ⟨supported, (advertised_delivers_iff rfl .tif pngImage).mpr (fun _ => writable) supported⟩

/-- A writer that is only known as `tiff` makes the repository advertise the format, but
`convert` asks for `tif` and leaves no image. -/
theorem advertised_tiff_lost :
    ImageRepositoryImageIoImpl.supportsOutputFormat (registeredIo [['t', 'i', 'f', 'f']]) .tif =
        true ∧
      EStateM.run (convert (registeredIo [['t', 'i', 'f', 'f']]) .tif) pngImage =
        .ok ⟨⟩ { image := none, formatString := ['T', 'I', 'F'] } ∧
      ¬Delivers (registeredIo [['t', 'i', 'f', 'f']]) .tif pngImage := by
  have differs : getFormatFromString pngImage.formatString ≠ some .tif := by decide
  have missing : findsWriter (registeredIo [['t', 'i', 'f', 'f']])
      (Text.toLowerCase ImageFormat.tif.name) = false := by decide
  refine ⟨by decide, ?_, ?_⟩
  · exact run_convert_of_written rfl differs (write_of_not_findsWriter missing) rfl
  · rw [delivers_of_differs rfl rfl differs, ← findsWriter_toLowerCase, missing]
    rintro ⟨finds, -⟩
    cases finds

end IiifImage.JAIImage
