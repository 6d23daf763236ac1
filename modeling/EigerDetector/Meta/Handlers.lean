import EigerDetector.Meta.Writer
import EigerDetector.Plugin.Survival

/-! All handlers of the meta writer, and the messages that the process plugin publishes for
them. -/
namespace Eiger.MetaWriter

open CharArrays Rapidjson Transition

/-- A value in a parsed document, as far as the plugin writes any. -/
inductive PyValue where
  | int (n : Int)
  | str (text : Bytes)
  | list (elements : List Nat)
  deriving DecidableEq

inductive PyException where
  | keyError (key : String)
  | typeError
  | valueError
  | attributeError
  deriving DecidableEq

/-- The members of a parsed object. -/
structure Document where
  items : List (Bytes × PyValue)
  deriving DecidableEq

def Document.get (doc : Document) : Dict PyValue := fun key =>
  (doc.items.find? fun item => item.1 = bytes key).map Prod.snd

/-- The data of a message as a handler gets it: an object, bytes, or something that is
neither. -/
inductive Data where
  | document (doc : Document)
  | buffer (blob : Bytes)
  | other

inductive DType where
  | float32
  | uint32
  deriving DecidableEq

/-- An array of items of four bytes, as many as its shape says. -/
structure NDArray where
  dtype : DType
  shape : List Nat
  blob : Bytes
  sized : blob.length = 4 * shape.prod

def dectris (suffix : Bytes) : Bytes := bytes "_dectris/" ++ suffix

def HEADER_CONFIG : List Bytes :=
  ["auto_summation", "beam_center_x", "beam_center_y", "bit_depth_image", "bit_depth_readout",
    "chi_increment", "chi_start", "compression", "count_time", "countrate_correction_applied",
    "countrate_correction_count_cutoff", "data_collection_date", "description",
    "detector_distance", "detector_number", "detector_readout_time", "detector_translation",
    "eiger_fw_version", "flatfield_correction_applied", "frame_count_time", "frame_period",
    "frame_time", "kappa_increment", "kappa_start", "nimages", "ntrigger",
    "number_of_excluded_pixels", "omega_increment", "omega_start", "phi_increment", "phi_start",
    "photon_energy", "pixel_mask_applied", "sensor_material", "sensor_thickness",
    "software_version", "threshold_energy", "trigger_mode", "two_theta_increment",
    "two_theta_start", "virtual_pixel_correction_applied", "wavelength", "x_pixel_size",
    "x_pixels_in_detector", "y_pixel_size", "y_pixels_in_detector"].map bytes

/-- What a handler asks of the base class. -/
inductive BaseCall where
  | createFile
  | writeSeries (series : PyValue)
  | writeArray (name : String) (array : NDArray)
  | addDataset (name : String) (data : Data)
  | writeDatasets (names : List Bytes) (data : List (Bytes × PyValue))
  | addValues (data : Document) (offset : Int)
  | flushDatasets
  | stopWhenWritersFinished

/-- What numpy, and the listener and the base class of odin-data do for the meta writer. -/
structure Libraries where
  loads : Bytes → Option Document
  /-- The data of a message, as it comes to a handler: sent as raw bytes, or as a text. -/
  received : Bool → Bytes → Data
  /-- `np.frombuffer(blob, dtype).reshape(shape)`. -/
  frombuffer : DType → List Nat → Bytes → Except PyException NDArray
  /-- The exception that a call ends with, after these. -/
  raises : List BaseCall → BaseCall → Option PyException

/-- What is documented of them, where nothing goes wrong in the base class. -/
structure Libraries.Documented (lib : Libraries) : Prop where
  raw : ∀ data, lib.received true data = .buffer data
  object : ∀ data doc, lib.loads data = some doc → lib.received false data = .document doc
  noObject : ∀ data doc, lib.loads data = none → lib.received false data ≠ .document doc
  shaped : ∀ dtype shape (blob : Bytes), blob.length = 4 * shape.prod →
    ∃ array, lib.frombuffer dtype shape blob = .ok array ∧
      array.dtype = dtype ∧ array.shape = shape ∧ array.blob = blob
  misshaped : ∀ dtype shape (blob : Bytes), blob.length ≠ 4 * shape.prod →
    lib.frombuffer dtype shape blob = .error .valueError
  succeeds : ∀ calls c, lib.raises calls c = none

/-- The writer, and what it asked of the base class. -/
structure MetaState where
  writer : EigerMetaWriter PyValue
  calls : List BaseCall

/-- What a handler leaves behind, and the exception it ended with, if any. -/
structure Handled where
  state : MetaState
  raised : Option PyException

/-- An exception ends the handler. -/
def Handled.andThen (h : Handled) (next : MetaState → Handled) : Handled :=
  match h.raised with
  | none => next h.state
  | some _ => h

namespace MetaState

def asked (calls : List BaseCall) (w : MetaState) : MetaState :=
  { w with calls := w.calls ++ calls }

/-- Call the base class, up to the first call that raises an exception. -/
def call (lib : Libraries) (w : MetaState) : List BaseCall → Handled
  | [] => ⟨w, none⟩
  | c :: calls =>
      match lib.raises w.calls c with
      | none => (w.asked [c]).call lib calls
      | some e => ⟨w, some e⟩

def handleGlobalHeaderNone (lib : Libraries) (header : Dict PyValue) (w : MetaState) : Handled :=
  (w.call lib (if w.writer.fileOpen then [] else [.createFile])).andThen fun w =>
    let opened := { w.writer with fileOpen := true }
    match header SERIES with
    | none => ⟨{ w with writer := opened }, some (.keyError SERIES)⟩
    | some series =>
        let registered := { opened with series := some series }
        (MetaState.call lib { w with writer := registered } [.writeSeries series]).andThen fun w =>
          let datasets := w.writer.datasets ++ [(SERIES, series)]
          ⟨{ w with writer := { w.writer with datasets := datasets } }, none⟩

def handleGlobalHeaderConfig (lib : Libraries) (header : Dict PyValue) (data : Data)
    (w : MetaState) : Handled :=
  (w.handleGlobalHeaderNone lib header).andThen fun w =>
    (w.call lib [.addDataset "config" data]).andThen fun w =>
      match data with
      | .document doc =>
          w.call lib [.writeDatasets (HEADER_CONFIG.map dectris)
            (doc.items.map fun (key, value) => (dectris key, value)), .flushDatasets]
      -- only an object has items
      | _ => ⟨w, some .attributeError⟩

/-- The array of a message, shaped as its header says: `(x, y) -> (y, x)`. -/
def arrayOf (lib : Libraries) (dtype : DType) (header : Dict PyValue) (data : Data) :
    Except PyException NDArray :=
  match header "shape" with
  | none => .error (.keyError "shape")
  | some (.list shape) =>
      match data with
      | .buffer blob => lib.frombuffer dtype shape.reverse blob
      | _ => .error .typeError
  | some _ => .error .typeError

/-- Write an array, and then make the calls that are left. -/
def handleArray (lib : Libraries) (name : String) (dtype : DType) (last : List BaseCall)
    (header : Dict PyValue) (data : Data) (w : MetaState) : Handled :=
  match arrayOf lib dtype header data with
  | .ok array => w.call lib (.writeArray name array :: last)
  | .error e => ⟨w, some e⟩

def handleFlatfieldHeader (lib : Libraries) : Dict PyValue → Data → MetaState → Handled :=
  handleArray lib "flatfield" .float32 []

def handleMaskHeader (lib : Libraries) : Dict PyValue → Data → MetaState → Handled :=
  handleArray lib "mask" .uint32 []

/-- The last message of a global header of detail all. -/
def handleCountrateHeader (lib : Libraries) : Dict PyValue → Data → MetaState → Handled :=
  handleArray lib "countrate" .float32 [.flushDatasets]

def handleHeaderAppendix (lib : Libraries) (data : Data) (w : MetaState) : Handled :=
  w.call lib [.addDataset "global_appendix" data]

def handleImageData (lib : Libraries) (header : Dict PyValue) (data : Data) (w : MetaState) :
    Handled :=
  match header SERIES with
  | none => ⟨w, some (.keyError SERIES)⟩
  | some series =>
      if w.writer.series = some series then
        match data with
        | .document doc =>
            match w.writer.handleImageData header doc.get with
            | some writer =>
                -- a frame that was written before gets its values now
                let waiting := (doc.get FRAME).bind w.writer.frameOffsetMap
                let joined := { writer with written := w.writer.written }
                (MetaState.call lib { w with writer := joined }
                  (waiting.toList.map (BaseCall.addValues doc))).andThen
                    fun w => ⟨{ w with writer := writer }, none⟩
            | none => ⟨w, some (.keyError FRAME)⟩
        | _ => ⟨w, some .typeError⟩
      else ⟨w, none⟩

def handleImageAppendix (w : MetaState) : Handled := ⟨w, none⟩

def handleEnd (lib : Libraries) (header : Dict PyValue) (w : MetaState) : Handled :=
  match w.writer.seriesValid header with
  | none => ⟨w, some (.keyError SERIES)⟩
  | some true => w.call lib [.stopWhenWritersFinished]
  | some false => ⟨w, none⟩

end MetaState

inductive Handler where
  | globalHeaderNone
  | globalHeaderConfig
  | flatfieldHeader
  | maskHeader
  | countrateHeader
  | headerAppendix
  | imageData
  | imageAppendix
  | endOfSeries
  deriving DecidableEq

def detectorMessageHandlers : List (Bytes × Handler) :=
  [(bytes "eiger-globalnone", .globalHeaderNone), (bytes "eiger-globalconfig", .globalHeaderConfig),
    (bytes "eiger-globalflatfield", .flatfieldHeader), (bytes "eiger-globalmask", .maskHeader),
    (bytes "eiger-globalcountrate", .countrateHeader),
    (bytes "eiger-headerappendix", .headerAppendix), (bytes "eiger-imagedata", .imageData),
    (bytes "eiger-imageappendix", .imageAppendix), (bytes "eiger-end", .endOfSeries)]

def handlerOf (name : Bytes) : Option Handler :=
  (detectorMessageHandlers.find? fun entry => entry.1 = name).map Prod.snd

def Handler.handle (lib : Libraries) (header : Dict PyValue) (data : Data) (w : MetaState) :
    Handler → Handled
  | globalHeaderNone => w.handleGlobalHeaderNone lib header
  | globalHeaderConfig => w.handleGlobalHeaderConfig lib header data
  | flatfieldHeader => w.handleFlatfieldHeader lib header data
  | maskHeader => w.handleMaskHeader lib header data
  | countrateHeader => w.handleCountrateHeader lib header data
  | headerAppendix => w.handleHeaderAppendix lib data
  | imageData => w.handleImageData lib header data
  | imageAppendix => w.handleImageAppendix
  | endOfSeries => w.handleEnd lib header

section Calls

variable {lib : Libraries} {header : Dict PyValue} {series frame : PyValue} {data : Data}
variable {doc : Document} {array : NDArray} {dtype : DType}

/-- Calls of the base class succeed. -/
theorem call_succeeds (hLib : lib.Documented) (calls : List BaseCall) (w : MetaState) :
    w.call lib calls = ⟨w.asked calls, none⟩ := by
  induction calls generalizing w with
  | nil => rw [MetaState.call, MetaState.asked, List.append_nil]
  | cons c calls ih =>
      rw [MetaState.call, hLib.succeeds, ih]
      simp only [MetaState.asked, List.append_assoc, List.singleton_append]

/-- The file, if it was not open, and the series. -/
def MetaState.headerCalls (w : MetaState) (series : PyValue) : List BaseCall :=
  (if w.writer.fileOpen then [] else [.createFile]) ++ [.writeSeries series]

theorem headerCalls_stop (w : MetaState) :
    BaseCall.stopWhenWritersFinished ∉ w.headerCalls series := by
  rw [MetaState.headerCalls]
  split <;> simp

/-- A header that has its series is handled. -/
theorem handleGlobalHeaderNone_eq (hLib : lib.Documented) (hSeries : header SERIES = some series)
    (w : MetaState) :
    ∃ writer, w.writer.handleGlobalHeaderNone header = some writer ∧
      w.handleGlobalHeaderNone lib header =
        ⟨{ w.asked (w.headerCalls series) with writer := writer }, none⟩ := by
  rw [MetaState.handleGlobalHeaderNone, EigerMetaWriter.handleGlobalHeaderNone, hSeries]
  refine ⟨_, rfl, ?_⟩
  simp only [call_succeeds hLib, Handled.andThen, MetaState.asked, MetaState.headerCalls,
    List.append_assoc]

/-- So is one with a configuration. -/
theorem handleGlobalHeaderConfig_eq (hLib : lib.Documented)
    (hSeries : header SERIES = some series) (doc : Document) (w : MetaState) :
    ∃ calls, w.handleGlobalHeaderConfig lib header (.document doc) =
      ⟨(w.handleGlobalHeaderNone lib header).state.asked calls, none⟩ ∧
        BaseCall.stopWhenWritersFinished ∉ calls := by
  obtain ⟨writer, _, hHandled⟩ := handleGlobalHeaderNone_eq hLib hSeries w
  refine ⟨[.addDataset "config" (.document doc), .writeDatasets (HEADER_CONFIG.map dectris)
    (doc.items.map fun (key, value) => (dectris key, value)), .flushDatasets], ?_, by simp⟩
  rw [MetaState.handleGlobalHeaderConfig, hHandled]
  simp only [call_succeeds hLib, Handled.andThen, MetaState.asked, List.append_assoc,
    List.singleton_append]

/-- A configuration without items is not. -/
theorem handleGlobalHeaderConfig_raised (hLib : lib.Documented)
    (hSeries : header SERIES = some series) (hData : ∀ doc, data ≠ .document doc)
    (w : MetaState) :
    (w.handleGlobalHeaderConfig lib header data).raised = some .attributeError := by
  obtain ⟨writer, _, hHandled⟩ := handleGlobalHeaderNone_eq hLib hSeries w
  rw [MetaState.handleGlobalHeaderConfig, hHandled]
  simp only [call_succeeds hLib, Handled.andThen]

/-- An image of the series in force is handled if header and data have its frame. -/
theorem handleImageData_eq (hLib : lib.Documented) (hSeries : header SERIES = some series)
    {w : MetaState} (hValid : w.writer.series = some series) {writer : EigerMetaWriter PyValue}
    (hHandled : w.writer.handleImageData header doc.get = some writer) :
    ∃ calls, w.handleImageData lib header (.document doc) =
      ⟨{ w.asked calls with writer := writer }, none⟩ ∧
        BaseCall.stopWhenWritersFinished ∉ calls := by
  refine ⟨((doc.get FRAME).bind w.writer.frameOffsetMap).toList.map (BaseCall.addValues doc), ?_,
    by simp⟩
  rw [MetaState.handleImageData, hSeries]
  simp only [if_pos hValid, hHandled, call_succeeds hLib, Handled.andThen, MetaState.asked]

/-- An array is written, and then the calls that are left are made. -/
theorem handleArray_eq (hLib : lib.Documented) {target : String} {last : List BaseCall}
    (hArray : MetaState.arrayOf lib dtype header data = .ok array) (w : MetaState) :
    MetaState.handleArray lib target dtype last header data w =
      ⟨w.asked (.writeArray target array :: last), none⟩ := by
  rw [MetaState.handleArray, hArray]
  exact call_succeeds hLib _ w

end Calls

section Published

open Decoder ProcessPlugin

/-- A size in a shape. -/
def sizeOf? : Value → Option Nat
  | .int n => some n.toNat
  | _ => none

/-- The value that the text of a published value is parsed as. -/
def pyValue : Value → Option PyValue
  | .int n => some (.int n)
  | .string text => some (.str text)
  | .array elements => (elements.mapM sizeOf?).map .list
  | _ => none

/-- The object that the text of a `JsonDict` is parsed as. -/
def documentOf (json : JsonDict) : Document :=
  ⟨json.members.filterMap fun (key, value) => (pyValue value).map fun value => (key, value)⟩

/-- The items which are published with a pointer to their bytes. -/
def isRaw (item : Bytes) : Bool :=
  [bytes "eiger-globalflatfield", bytes "eiger-globalmask", bytes "eiger-globalcountrate"].any
    fun raw => raw = item

/-- The handler that is meant for a buffer. -/
def Handler.ofType : EigerMessageType → Handler
  | .globalHeaderNone => .globalHeaderNone
  | .globalHeaderConfig => .globalHeaderConfig
  | .globalHeaderFlatfield => .flatfieldHeader
  | .globalHeaderMask => .maskHeader
  | .globalHeaderCountrate => .countrateHeader
  | .globalHeaderAppendix => .headerAppendix
  | .imageData => .imageData
  | .imageAppendix => .imageAppendix
  | .endOfStream => .endOfSeries

/-- What is wrong with a buffer for the meta writer: an array of another size than its
shape has, or a configuration that is no object. -/
def faultOf (lib : Libraries) (buffer : FrameBuffer) : Option PyException :=
  match buffer.header.messageType with
  | .globalHeaderFlatfield | .globalHeaderMask | .globalHeaderCountrate =>
      if buffer.header.dataSize = 4 * (buffer.header.shapeSizeX * buffer.header.shapeSizeY)
      then none else some .valueError
  | .globalHeaderConfig => if (lib.loads (dataOf buffer)).isSome then none else some .attributeError
  | _ => none

variable {framework : Framework} {lib : Libraries} {buffer : FrameBuffer}
variable {outputs : List Output} {name item data header : Bytes}

/-- An array is written if there are as many bytes as the shape in the header says. -/
theorem handleArray_raised (hLib : lib.Documented) (target : String) (dtype : DType)
    (last : List BaseCall) {header : Dict PyValue} {x y : Nat}
    (hShape : header "shape" = some (.list [x, y])) (blob : Bytes) (w : MetaState) :
    (MetaState.handleArray lib target dtype last header (.buffer blob) w).raised =
      if blob.length = 4 * (x * y) then none else some .valueError := by
  have hProduct : ([x, y].reverse).prod = x * y := by
    simp [Nat.mul_comm]
  rw [MetaState.handleArray, MetaState.arrayOf, hShape, ← hProduct]
  by_cases hSize : blob.length = 4 * ([x, y].reverse).prod
  · obtain ⟨array, hArray, _⟩ := hLib.shaped dtype _ blob hSize
    simp only [hArray, if_pos hSize, call_succeeds hLib]
  · simp only [hLib.misshaped dtype _ blob hSize, if_neg hSize]

theorem dataOf_length (buffer : FrameBuffer) :
    (dataOf buffer).length = buffer.header.dataSize := by
  rw [dataOf, Memory.load, List.length_map, List.length_range]

/-- The members of an array's header. -/
def arrayJson (header : FrameHeader) (json : JsonDict) : Option JsonDict :=
  (readText header.dataType).map fun dataType =>
    (json.add shapeKey (shapeValue header)).add dataTypeKey (.string dataType)

/-- What is published about a buffer besides its data. -/
def jsonOf (header : FrameHeader) : Option JsonDict := do
  let acqID ← readText header.acquisitionID
  let json : JsonDict := ⟨[(acquisitionIDKey, .string acqID)]⟩
  match header.messageType with
  | .imageData => imageJson header json
  | .imageAppendix => some (json.add frameKey (.int header.frameNumber))
  | .globalHeaderFlatfield | .globalHeaderMask | .globalHeaderCountrate => arrayJson header json
  | .globalHeaderAppendix => some json
  | .globalHeaderNone | .globalHeaderConfig | .endOfStream =>
      some (json.add seriesKey (.int header.series))

/-- The item that a buffer is published as. -/
def itemOf : EigerMessageType → Bytes
  | .globalHeaderNone => bytes "eiger-globalnone"
  | .globalHeaderConfig => bytes "eiger-globalconfig"
  | .globalHeaderFlatfield => bytes "eiger-globalflatfield"
  | .globalHeaderMask => bytes "eiger-globalmask"
  | .globalHeaderCountrate => bytes "eiger-globalcountrate"
  | .globalHeaderAppendix => bytes "eiger-headerappendix"
  | .imageData => bytes "eiger-imagedata"
  | .imageAppendix => bytes "eiger-imageappendix"
  | .endOfStream => bytes "eiger-end"

/-- The data that goes with it. -/
def publishedData (framework : Framework) (buffer : FrameBuffer) (json : JsonDict) : Bytes :=
  match buffer.header.messageType with
  | .imageData | .globalHeaderNone => framework.str json
  | .endOfStream => []
  | _ => dataOf buffer

/-- The one message that is published about a buffer. -/
theorem processFrame_published (h : processFrame framework buffer = some outputs)
    (hMem : .publishMeta name item data header ∈ outputs) :
    ∃ json, jsonOf buffer.header = some json ∧ item = itemOf buffer.header.messageType ∧
      header = framework.str json ∧ data = publishedData framework buffer json := by
  obtain ⟨acqID, hID, h⟩ := Option.bind_eq_some_iff.mp h
  unfold jsonOf publishedData
  rw [hID, Option.bind_eq_bind, Option.bind_some]
  have hArray : ∀ target, processDataMessage framework buffer
      ⟨[(acquisitionIDKey, .string acqID)]⟩ target = some outputs →
      ∃ json, arrayJson buffer.header ⟨[(acquisitionIDKey, .string acqID)]⟩ = some json ∧
        item = target ∧ header = framework.str json ∧ data = dataOf buffer := by
    intro target hOutputs
    obtain ⟨dataType, hText, hOutputs⟩ := Option.bind_eq_some_iff.mp hOutputs
    cases hOutputs
    cases List.mem_singleton.mp hMem
    rw [arrayJson, hText]
    exact ⟨_, rfl, rfl, rfl, rfl⟩
  cases hType : buffer.header.messageType with
  | imageData =>
      simp only [hType] at h
      obtain ⟨metaData, _, h⟩ := Option.bind_eq_some_iff.mp h
      obtain ⟨json, hJson, h⟩ := Option.bind_eq_some_iff.mp h
      cases h
      rcases List.mem_cons.mp hMem with hPublished | hPushed
      · cases hPublished
        exact ⟨json, hJson, rfl, rfl, rfl⟩
      · cases List.mem_singleton.mp hPushed
  | globalHeaderFlatfield =>
      simp only [hType] at h
      exact hArray _ h
  | globalHeaderMask =>
      simp only [hType] at h
      exact hArray _ h
  | globalHeaderCountrate =>
      simp only [hType] at h
      exact hArray _ h
  | _ =>
      simp only [hType] at h
      cases h
      cases List.mem_singleton.mp hMem
      exact ⟨_, rfl, rfl, rfl, rfl⟩

/-- Whatever is processed is published, and first. -/
theorem processFrame_publishes (h : processFrame framework buffer = some outputs) :
    ∃ name item data header rest, outputs = .publishMeta name item data header :: rest := by
  obtain ⟨acqID, hID, h⟩ := Option.bind_eq_some_iff.mp h
  have hArray : ∀ json target, processDataMessage framework buffer json target = some outputs →
      ∃ name item data header rest, outputs = .publishMeta name item data header :: rest := by
    intro json target hOutputs
    obtain ⟨dataType, _, hOutputs⟩ := Option.bind_eq_some_iff.mp hOutputs
    cases hOutputs
    exact ⟨_, _, _, _, _, rfl⟩
  cases hType : buffer.header.messageType with
  | imageData =>
      simp only [hType] at h
      obtain ⟨metaData, _, h⟩ := Option.bind_eq_some_iff.mp h
      obtain ⟨json, _, h⟩ := Option.bind_eq_some_iff.mp h
      cases h
      exact ⟨_, _, _, _, _, rfl⟩
  | globalHeaderFlatfield =>
      simp only [hType] at h
      exact hArray _ _ h
  | globalHeaderMask =>
      simp only [hType] at h
      exact hArray _ _ h
  | globalHeaderCountrate =>
      simp only [hType] at h
      exact hArray _ _ h
  | _ =>
      simp only [hType] at h
      cases h
      exact ⟨_, _, _, _, _, rfl⟩

/-- Each name that the plugin publishes under is known to the meta writer. -/
theorem handlerOf_itemOf (type : EigerMessageType) :
    handlerOf (itemOf type) = some (.ofType type) := by
  cases type <;> decide

theorem received_raw (hLib : lib.Documented) (hRaw : isRaw item = true) (data : Bytes) :
    lib.received (isRaw item) data = .buffer data := by
  rw [hRaw]
  exact hLib.raw data

theorem received_document (hLib : lib.Documented) {doc : Document} (hRaw : isRaw item = false)
    (hDoc : lib.loads data = some doc) :
    lib.received (isRaw item) data = .document doc := by
  rw [hRaw]
  exact hLib.object data doc hDoc

/-- An image is handled if header and data have what is looked up. -/
theorem handleImageData_raised (hLib : lib.Documented) {header : Dict PyValue} {doc : Document}
    {series frame : PyValue} (hSeries : header SERIES = some series)
    (hFrame : header FRAME = some frame) (hData : doc.get FRAME = some frame) (w : MetaState) :
    (w.handleImageData lib header (.document doc)).raised = none := by
  by_cases hValid : w.writer.series = some series
  · have hHandled : ∃ writer, w.writer.handleImageData header doc.get = some writer := by
      rw [EigerMetaWriter.handleImageData, seriesValid_eq hSeries, decide_eq_true hValid]
      simp only [Option.bind_eq_bind, Option.bind_some, if_true, hData]
      cases w.writer.frameOffsetMap frame with
      | some offset =>
          simp only [hFrame, Option.bind_some]
          exact ⟨_, rfl⟩
      | none => exact ⟨_, rfl⟩
    obtain ⟨writer, hWriter⟩ := hHandled
    obtain ⟨calls, hResult, _⟩ := handleImageData_eq hLib hSeries hValid hWriter
    rw [hResult]
  · rw [MetaState.handleImageData, hSeries]
    simp only [if_neg hValid]

theorem handleEnd_raised (hLib : lib.Documented) {header : Dict PyValue} {series : PyValue}
    (hSeries : header SERIES = some series) (w : MetaState) :
    (w.handleEnd lib header).raised = none := by
  rw [MetaState.handleEnd, seriesValid_eq hSeries]
  by_cases hValid : w.writer.series = some series
  · simp only [decide_eq_true hValid, call_succeeds hLib]
  · simp only [decide_eq_false hValid]

/-- The header of an array has its shape. -/
theorem arrayJson_shape {acqID : Bytes} {h : FrameHeader} {json : JsonDict}
    (hJson : arrayJson h ⟨[(acquisitionIDKey, .string acqID)]⟩ = some json) :
    (documentOf json).get "shape" = some (.list [h.shapeSizeX, h.shapeSizeY]) := by
  obtain ⟨dataType, _, rfl⟩ := Option.map_eq_some_iff.mp hJson
  rfl

/-- Whatever is published about a buffer finds the handler that is meant for it, and this
handler raises an exception exactly if there is something wrong with the buffer. The texts of
the headers are assumed to be parsed as what they were written of. -/
theorem published_handled (hLib : lib.Documented)
    (hLoads : ∀ json ∈ jsonOf buffer.header,
      lib.loads (framework.str json) = some (documentOf json))
    (h : processFrame framework buffer = some outputs)
    (hMem : .publishMeta name item data header ∈ outputs) :
    ∃ doc, lib.loads header = some doc ∧
      handlerOf item = some (.ofType buffer.header.messageType) ∧
      ∀ w, ((Handler.ofType buffer.header.messageType).handle lib doc.get
        (lib.received (isRaw item) data) w).raised = faultOf lib buffer := by
  obtain ⟨json, hJson, rfl, rfl, rfl⟩ := processFrame_published h hMem
  refine ⟨_, hLoads json hJson, handlerOf_itemOf _, fun w => ?_⟩
  have hDoc := hLoads json hJson
  obtain ⟨acqID, _, hJson⟩ := Option.bind_eq_some_iff.mp hJson
  rw [faultOf, publishedData]
  cases hType : buffer.header.messageType with
  | imageData =>
      simp only [hType] at hJson
      rw [received_document hLib (by decide) hDoc]
      obtain ⟨dataType, _, hJson⟩ := Option.bind_eq_some_iff.mp hJson
      obtain ⟨encoding, _, hJson⟩ := Option.bind_eq_some_iff.mp hJson
      obtain ⟨hash, _, hJson⟩ := Option.bind_eq_some_iff.mp hJson
      cases hJson
      exact handleImageData_raised hLib rfl rfl rfl w
  | imageAppendix => rfl
  | globalHeaderNone =>
      simp only [hType] at hJson
      have hSeries : (documentOf json).get SERIES = some (.int buffer.header.series) := by
        cases hJson
        rfl
      obtain ⟨writer, _, hHandled⟩ := handleGlobalHeaderNone_eq hLib hSeries w
      exact congrArg Handled.raised hHandled
  | globalHeaderConfig =>
      simp only [hType] at hJson
      have hSeries : (documentOf json).get SERIES = some (.int buffer.header.series) := by
        cases hJson
        rfl
      have hString : isRaw (itemOf .globalHeaderConfig) = false := by
        decide
      cases hLoaded : lib.loads (dataOf buffer) with
      | none =>
          rw [hString]
          exact handleGlobalHeaderConfig_raised hLib hSeries
            (fun doc => hLib.noObject _ doc hLoaded) w
      | some doc =>
          rw [received_document hLib hString hLoaded]
          obtain ⟨calls, hHandled, _⟩ := handleGlobalHeaderConfig_eq hLib hSeries doc w
          exact congrArg Handled.raised hHandled
  | globalHeaderFlatfield =>
      simp only [hType] at hJson
      rw [received_raw hLib (by decide), ← dataOf_length]
      exact handleArray_raised hLib _ _ _ (arrayJson_shape hJson) _ w
  | globalHeaderMask =>
      simp only [hType] at hJson
      rw [received_raw hLib (by decide), ← dataOf_length]
      exact handleArray_raised hLib _ _ _ (arrayJson_shape hJson) _ w
  | globalHeaderCountrate =>
      simp only [hType] at hJson
      rw [received_raw hLib (by decide), ← dataOf_length]
      exact handleArray_raised hLib _ _ _ (arrayJson_shape hJson) _ w
  | globalHeaderAppendix => exact congrArg Handled.raised (call_succeeds hLib _ w)
  | endOfStream =>
      simp only [hType] at hJson
      cases hJson
      exact handleEnd_raised hLib rfl w

/-- The texts of these headers are parsed, and no others. -/
def loadsOf (framework : Framework) (headers : List FrameHeader) (text : Bytes) :
    Option Document :=
  ((headers.filterMap jsonOf).find? fun json => framework.str json = text).map documentOf

/-- Libraries that do what is documented. -/
def documented (loads : Bytes → Option Document) : Libraries where
  loads := loads
  received raw data :=
    if raw then .buffer data
    else match loads data with
      | some doc => .document doc
      | none => .other
  frombuffer dtype shape blob :=
    if h : blob.length = 4 * shape.prod then .ok ⟨dtype, shape, blob, h⟩ else .error .valueError
  raises _ _ := none

theorem documented_documented (loads : Bytes → Option Document) :
    (documented loads).Documented where
  raw _ := rfl
  object data doc hDoc := by
    have hDoc : loads data = some doc := hDoc
    simp only [documented, hDoc, Bool.false_eq_true, if_false]
  noObject data doc hNone := by
    have hNone : loads data = none := hNone
    simp only [documented, hNone, Bool.false_eq_true, if_false]
    exact fun hEq => Data.noConfusion hEq
  shaped dtype shape blob hSize := ⟨_, dif_pos hSize, rfl, rfl, rfl⟩
  misshaped dtype shape blob hSize := dif_neg hSize
  succeeds _ _ := rfl

/-- A countrate that should have two values. -/
def sampleCountrate (size : Nat) : FrameBuffer :=
  ⟨{ ImageMessage.sample.header with
      messageType := .globalHeaderCountrate, shapeSizeX := 2, shapeSizeY := 1, dataSize := size },
    fun _ => 0⟩

def sampleCountrateLibraries : Libraries :=
  documented (loadsOf ImageMessage.sampleFramework [(sampleCountrate 7).header])

/-- It has seven bytes instead of eight. -/
theorem sample_countrate_handled : ∃ doc item data header,
    some [.publishMeta (bytes "eiger") item data header] =
      processFrame ImageMessage.sampleFramework (sampleCountrate 7) ∧
    sampleCountrateLibraries.loads header = some doc ∧
    ∀ w, (Handler.countrateHeader.handle sampleCountrateLibraries doc.get
      (sampleCountrateLibraries.received (isRaw item) data) w).raised = some .valueError := by
  have hLoads : ∀ json ∈ jsonOf (sampleCountrate 7).header,
      sampleCountrateLibraries.loads (ImageMessage.sampleFramework.str json) =
        some (documentOf json) := by
    decide +kernel
  have hOutputs : processFrame ImageMessage.sampleFramework (sampleCountrate 7) =
      some [.publishMeta (bytes "eiger") (bytes "eiger-globalcountrate") _ _] := rfl
  obtain ⟨doc, hDoc, _, hRaised⟩ :=
    published_handled (documented_documented _) hLoads hOutputs (List.mem_singleton_self _)
  exact ⟨doc, _, _, _, hOutputs.symm, hDoc, hRaised⟩

end Published

section Acquisition

open Join

/-- What the meta writer meets: a published message, or a frame that was written. -/
inductive WriterEvent where
  | published (handler : Handler) (header : Dict PyValue) (data : Data)
  | writeFrame (frame : PyValue) (offset : Int)

def MetaState.process (lib : Libraries) (w : MetaState) : WriterEvent → Handled
  | .published handler header data => handler.handle lib header data w
  | .writeFrame frame offset => ⟨{ w with writer := w.writer.handleWriteFrame frame offset }, none⟩

/-- The next event, unless its handler raises an exception. -/
def MetaState.step (lib : Libraries) (w : MetaState) (event : WriterEvent) : Option MetaState :=
  if (w.process lib event).raised = none then some (w.process lib event).state else none

def BaseCall.isStop : BaseCall → Bool
  | stopWhenWritersFinished => true
  | _ => false

/-- How often the base class was asked to stop. -/
def MetaState.stops (w : MetaState) : Nat := w.calls.countP BaseCall.isStop

/-- The end message of this series. -/
def WriterEvent.ends (series : PyValue) : WriterEvent → Bool
  | .published .endOfSeries header _ => decide (header SERIES = some series)
  | _ => false

/-- What an event adds to the join: the data of an image of this series, or the offset of a
frame. -/
def WriterEvent.arrival (series : PyValue) : WriterEvent →
    Option (Arrival PyValue Int (Dict PyValue))
  | .published .imageData header (.document doc) =>
      if header SERIES = some series then (doc.get FRAME).map fun frame => .right frame doc.get
      else none
  | .writeFrame frame offset => some (.left frame offset)
  | _ => none

/-- An event of an acquisition: its headers are of this series, and whatever is published has
what its handler looks up. Images and ends may be of any series. -/
def WriterEvent.Proper (lib : Libraries) (series : PyValue) : WriterEvent → Prop
  | .published .globalHeaderNone header _ => header SERIES = some series
  | .published .globalHeaderConfig header data =>
      header SERIES = some series ∧ ∃ doc, data = .document doc
  | .published .flatfieldHeader header data =>
      ∃ array, MetaState.arrayOf lib .float32 header data = .ok array
  | .published .maskHeader header data =>
      ∃ array, MetaState.arrayOf lib .uint32 header data = .ok array
  | .published .countrateHeader header data =>
      ∃ array, MetaState.arrayOf lib .float32 header data = .ok array
  | .published .imageData header data => ∃ other doc frame, header SERIES = some other ∧
      data = .document doc ∧ header FRAME = some frame ∧ doc.get FRAME = some frame
  | .published .endOfSeries header _ => ∃ other, header SERIES = some other
  | _ => True

variable {lib : Libraries} {series : PyValue} {before : List (Write PyValue)}
variable {w w' : MetaState} {t : Table PyValue Int (Dict PyValue)}

theorem stops_asked (calls : List BaseCall) :
    (w.asked calls).stops = w.stops + calls.countP BaseCall.isStop := List.countP_append

/-- Calls that are no request to stop. -/
theorem stops_unasked {calls : List BaseCall}
    (hCalls : BaseCall.stopWhenWritersFinished ∉ calls) : (w.asked calls).stops = w.stops := by
  rw [stops_asked, List.countP_eq_zero.mpr, Nat.add_zero]
  intro c hMem hStop
  cases c with
  | stopWhenWritersFinished => exact hCalls hMem
  | _ => cases hStop

theorem step_handled {event : WriterEvent} (hHandled : w.process lib event = ⟨w', none⟩) :
    w.step lib event = some w' := by
  rw [MetaState.step, hHandled, if_pos rfl]

/-- The header of the series in force only confirms it. -/
theorem header_confirms (hLib : lib.Documented) (h : Refines series before w.writer t)
    {header : Dict PyValue} (hHeader : header SERIES = some series) :
    ∃ w', w.handleGlobalHeaderNone lib header = ⟨w', none⟩ ∧
      Refines series before w'.writer t ∧ w'.stops = w.stops := by
  obtain ⟨writer, hWriter, hHandled⟩ := handleGlobalHeaderNone_eq hLib hHeader w
  rw [EigerMetaWriter.handleGlobalHeaderNone, hHeader] at hWriter
  cases hWriter
  refine ⟨_, hHandled, ⟨rfl, h.offsets, h.data, h.written⟩, stops_unasked ?_⟩
  exact headerCalls_stop w

/-- A configuration is kept after the header. -/
theorem config_written (hLib : lib.Documented) {header : Dict PyValue} (doc : Document)
    (hHeader : header SERIES = some series)
    (hHandled : w.handleGlobalHeaderNone lib header = ⟨w', none⟩) :
    ∃ w'', w.handleGlobalHeaderConfig lib header (.document doc) = ⟨w'', none⟩ ∧
      w''.writer = w'.writer ∧ w''.stops = w'.stops := by
  obtain ⟨calls, hConfig, hCalls⟩ := handleGlobalHeaderConfig_eq hLib hHeader doc w
  rw [hHandled] at hConfig
  exact ⟨_, hConfig, rfl, stops_unasked hCalls⟩

/-- An image of the series in force joins, one of another series changes nothing. -/
theorem image_joins (hLib : lib.Documented) (h : Refines series before w.writer t)
    {header : Dict PyValue} {doc : Document} {other frame : PyValue}
    (hSeries : header SERIES = some other) (hFrame : header FRAME = some frame)
    (hData : doc.get FRAME = some frame) :
    ∃ w', w.handleImageData lib header (.document doc) = ⟨w', none⟩ ∧ w'.stops = w.stops ∧
      Refines series before w'.writer
        (if other = series then t.arrive (.right frame doc.get) else t) := by
  by_cases hSame : other = series
  · subst hSame
    obtain ⟨writer, hHandled, hRefines⟩ := h.imageData
      (m := ⟨frame, 0, header, doc.get⟩) ⟨hSeries, hFrame, hData⟩
    obtain ⟨calls, hResult, hCalls⟩ := handleImageData_eq hLib hSeries h.series hHandled
    rw [if_pos rfl]
    exact ⟨_, hResult, stops_unasked hCalls, hRefines⟩
  · have hOther : ¬ w.writer.series = some other := by
      rw [h.series]
      exact fun hEq => hSame (Option.some.inj hEq).symm
    rw [MetaState.handleImageData, hSeries]
    simp only [if_neg hOther, if_neg hSame]
    exact ⟨w, rfl, rfl, h⟩

/-- What the next event of an acquisition does. -/
theorem acquisition_step (hLib : lib.Documented) {event : WriterEvent}
    (h : Refines series before w.writer t) (hProper : event.Proper lib series) :
    ∃ w', w.step lib event = some w' ∧
      Refines series before w'.writer ((event.arrival series).elim t t.arrive) ∧
      w'.stops = w.stops + if event.ends series then 1 else 0 := by
  cases event with
  | writeFrame frame offset =>
      exact ⟨_, step_handled rfl, h.writeFrame frame offset, rfl⟩
  | published handler header data =>
      cases handler with
      | globalHeaderNone =>
          obtain ⟨w', hHandled, hRefines, hStops⟩ := header_confirms hLib h hProper
          exact ⟨w', step_handled hHandled, hRefines, hStops⟩
      | globalHeaderConfig =>
          obtain ⟨hSeries, doc, rfl⟩ := hProper
          obtain ⟨w', hHandled, hRefines, hSame⟩ := header_confirms hLib h hSeries
          obtain ⟨w'', hConfig, hWriter, hStops⟩ := config_written hLib doc hSeries hHandled
          exact ⟨w'', step_handled hConfig, hWriter ▸ hRefines, hStops.trans hSame⟩
      | flatfieldHeader =>
          obtain ⟨array, hArray⟩ := hProper
          exact ⟨_, step_handled (handleArray_eq hLib hArray w), h, stops_asked _⟩
      | maskHeader =>
          obtain ⟨array, hArray⟩ := hProper
          exact ⟨_, step_handled (handleArray_eq hLib hArray w), h, stops_asked _⟩
      | countrateHeader =>
          obtain ⟨array, hArray⟩ := hProper
          exact ⟨_, step_handled (handleArray_eq hLib hArray w), h, stops_asked _⟩
      | headerAppendix =>
          exact ⟨_, step_handled (call_succeeds hLib _ w), h, stops_asked _⟩
      | imageData =>
          obtain ⟨other, doc, frame, hSeries, rfl, hFrame, hData⟩ := hProper
          obtain ⟨w', hHandled, hStops, hRefines⟩ := image_joins hLib h hSeries hFrame hData
          refine ⟨w', step_handled hHandled, ?_, hStops⟩
          rw [WriterEvent.arrival, hSeries, hData]
          by_cases hSame : other = series
          · rw [if_pos hSame] at hRefines
            rw [if_pos (congrArg some hSame)]
            exact hRefines
          · rw [if_neg hSame] at hRefines
            rw [if_neg fun hEq => hSame (Option.some.inj hEq)]
            exact hRefines
      | imageAppendix => exact ⟨w, step_handled rfl, h, rfl⟩
      | endOfSeries =>
          obtain ⟨other, hSeries⟩ := hProper
          by_cases hSame : other = series
          · subst hSame
            have hEnd : w.process lib (.published .endOfSeries header data) =
                ⟨w.asked [.stopWhenWritersFinished], none⟩ := by
              show w.handleEnd lib header = _
              rw [MetaState.handleEnd, seriesValid_eq hSeries, decide_eq_true h.series]
              exact call_succeeds hLib _ w
            refine ⟨_, step_handled hEnd, h, ?_⟩
            rw [stops_asked, WriterEvent.ends, decide_eq_true hSeries]
            rfl
          · have hEnd : w.process lib (.published .endOfSeries header data) = ⟨w, none⟩ := by
              show w.handleEnd lib header = _
              rw [MetaState.handleEnd, seriesValid_eq hSeries, h.series, decide_eq_false]
              exact fun hEq => hSame (Option.some.inj hEq).symm
            refine ⟨_, step_handled hEnd, h, ?_⟩
            rw [WriterEvent.ends, hSeries, decide_eq_false fun hEq => hSame (Option.some.inj hEq)]
            rfl

/-- The header of a new series puts it in force. -/
theorem header_begins (hLib : lib.Documented) {header : Dict PyValue}
    (hHeader : header SERIES = some series) (hData : ∀ frame, w.writer.frameDataMap frame = none)
    (hOffsets : ∀ frame, w.writer.frameOffsetMap frame = none) :
    ∃ w', w.handleGlobalHeaderNone lib header = ⟨w', none⟩ ∧
      Refines series w.writer.written w'.writer .empty ∧ w'.stops = w.stops := by
  obtain ⟨writer, hWriter, hHandled⟩ := handleGlobalHeaderNone_eq hLib hHeader w
  rw [EigerMetaWriter.handleGlobalHeaderNone, hHeader] at hWriter
  cases hWriter
  refine ⟨_, hHandled,
    ⟨rfl, funext hOffsets, funext hData, (List.append_nil _).symm⟩, stops_unasked ?_⟩
  exact headerCalls_stop w

/-- What a sequence of events of an acquisition does. -/
theorem acquisition_run (hLib : lib.Documented) {events : List WriterEvent}
    (h : Refines series before w.writer t)
    (hProper : ∀ event ∈ events, event.Proper lib series) :
    ∃ w', exec (MetaState.step lib) w events = some w' ∧
      Refines series before w'.writer
        ((events.filterMap (WriterEvent.arrival series)).foldl Table.arrive t) ∧
      w'.stops = w.stops + events.countP (WriterEvent.ends series) := by
  induction events generalizing w t with
  | nil => exact ⟨w, rfl, h, rfl⟩
  | cons event events ih =>
      obtain ⟨hFirst, hRest⟩ := List.forall_mem_cons.mp hProper
      obtain ⟨w₁, hStep, hMiddle, hStops⟩ := acquisition_step hLib h hFirst
      obtain ⟨w₂, hExec, hEnd, hStops'⟩ := ih hMiddle hRest
      refine ⟨w₂, ?_, ?_, ?_⟩
      · rw [exec, hStep, Option.bind_some, hExec]
      · cases hArrival : event.arrival series with
        | none =>
            rw [hArrival] at hEnd
            rw [List.filterMap_cons_none hArrival]
            exact hEnd
        | some arrival =>
            rw [hArrival] at hEnd
            rw [List.filterMap_cons_some hArrival]
            exact hEnd
      · rw [hStops', hStops, List.countP_cons]
        omega

end Acquisition

section Buffers

open Join Decoder ProcessPlugin

/-- What the frame processors do: process a buffer, or write a frame at an offset. -/
inductive Input where
  | process (buffer : FrameBuffer)
  | writeFrame (frame : Int) (offset : Int)

/-- A published message as it comes to its handler. -/
def eventOf (lib : Libraries) : Output → Option WriterEvent
  | .publishMeta _ item data header => do
      let handler ← handlerOf item
      let doc ← lib.loads header
      pure (.published handler doc.get (lib.received (isRaw item) data))
  | .push _ => none

/-- How the meta writer gets to know of it. -/
def Input.event (framework : Framework) (lib : Libraries) :
    Input → Option WriterEvent
  | .process buffer => (processFrame framework buffer).bind fun outputs =>
      outputs.findSome? (eventOf lib)
  | .writeFrame frame offset => some (.writeFrame (.int frame) offset)

/-- A frame that was written, or an image of this series. -/
def Input.joins (series : Nat) : Input → Bool
  | .process buffer => buffer.header.messageType = .imageData && buffer.header.series = series
  | .writeFrame _ _ => true

/-- The end message of this series. -/
def Input.ends (series : Nat) : Input → Bool
  | .process buffer => buffer.header.messageType = .endOfStream && buffer.header.series = series
  | .writeFrame _ _ => false

/-- A buffer that the plugin and the meta writer can make something of; the headers are of
this series. -/
structure Sane (framework : Framework) (lib : Libraries) (series : Nat)
    (buffer : FrameBuffer) : Prop where
  legible : (processFrame framework buffer).isSome
  parsed : ∀ json ∈ jsonOf buffer.header, lib.loads (framework.str json) = some (documentOf json)
  faultless : faultOf lib buffer = none
  series : buffer.header.messageType = .globalHeaderNone ∨
    buffer.header.messageType = .globalHeaderConfig → buffer.header.series = series

/-- What is written for an image. -/
def rowOf (image : FrameBuffer × Int) : Write PyValue :=
  let h := image.1.header
  ⟨image.2, [("start_time", some (.int h.startTime)), ("stop_time", some (.int h.stopTime)),
    ("real_time", some (.int h.realTime)), ("size", some (.int h.sizeInHeader)),
    ("hash", some (.str h.hash.text)), ("encoding", some (.str h.encoding.text)),
    ("type", some (.str h.dataType.text))]⟩

variable {framework : Framework} {lib : Libraries} {buffer : FrameBuffer}
variable {series : Nat} {item : Bytes}

theorem readText_eq {size : Nat} {a : CharArray size} {text : Bytes}
    (h : readText a = some text) : text = a.text := by
  rw [readText] at h
  split at h
  · exact (Option.some.inj h).symm
  · cases h

/-- The header of an image has its series, its number and the values that are written. -/
theorem imageJson_reads {json : JsonDict} {acqID : Bytes} (offset : Int)
    (h : imageJson buffer.header ⟨[(acquisitionIDKey, .string acqID)]⟩ = some json) :
    (documentOf json).get SERIES = some (.int buffer.header.series) ∧
      (documentOf json).get FRAME = some (.int buffer.header.frameNumber) ∧
      writeOf (.int buffer.header.frameNumber, offset, (documentOf json).get) =
        rowOf (buffer, offset) := by
  obtain ⟨dataType, hType, h⟩ := Option.bind_eq_some_iff.mp h
  obtain ⟨encoding, hEncoding, h⟩ := Option.bind_eq_some_iff.mp h
  obtain ⟨hash, hHash, h⟩ := Option.bind_eq_some_iff.mp h
  cases h
  rw [rowOf, ← readText_eq hType, ← readText_eq hEncoding, ← readText_eq hHash]
  exact ⟨rfl, rfl, rfl⟩

theorem array_shaped (hLib : lib.Documented) {dtype : DType} {header : Dict PyValue} {x y : Nat}
    {blob : Bytes} (hShape : header "shape" = some (.list [x, y]))
    (hSize : blob.length = 4 * (x * y)) :
    ∃ array, MetaState.arrayOf lib dtype header (.buffer blob) = .ok array := by
  have hProduct : blob.length = 4 * ([x, y].reverse).prod := by
    rw [hSize]
    simp [Nat.mul_comm]
  obtain ⟨array, hArray, _⟩ := hLib.shaped dtype _ blob hProduct
  rw [MetaState.arrayOf, hShape]
  exact ⟨array, hArray⟩

/-- A faultless array can be shaped as its header says. -/
theorem published_array (hLib : lib.Documented) {json : JsonDict} {acqID : Bytes} (dtype : DType)
    (hRaw : isRaw item = true)
    (hJson : arrayJson buffer.header ⟨[(acquisitionIDKey, .string acqID)]⟩ = some json)
    (hFault : (if buffer.header.dataSize = 4 * (buffer.header.shapeSizeX * buffer.header.shapeSizeY)
      then none else some PyException.valueError) = none) :
    ∃ array, MetaState.arrayOf lib dtype (documentOf json).get
      (lib.received (isRaw item) (dataOf buffer)) = .ok array := by
  have hSize : buffer.header.dataSize =
      4 * (buffer.header.shapeSizeX * buffer.header.shapeSizeY) := by
    by_contra hWrong
    rw [if_neg hWrong] at hFault
    cases hFault
  rw [received_raw hLib hRaw]
  exact array_shaped hLib (arrayJson_shape hJson) ((dataOf_length buffer).trans hSize)

/-- What is published about a buffer, as its handler gets it. -/
theorem Sane.published (h : Sane framework lib series buffer) :
    ∃ json, jsonOf buffer.header = some json ∧ (Input.process buffer).event framework lib =
      some (.published (.ofType buffer.header.messageType) (documentOf json).get
        (lib.received (isRaw (itemOf buffer.header.messageType))
          (publishedData framework buffer json))) := by
  obtain ⟨outputs, hOutputs⟩ := Option.isSome_iff_exists.mp h.legible
  obtain ⟨name, item, data, header, rest, rfl⟩ := processFrame_publishes hOutputs
  obtain ⟨json, hJson, rfl, rfl, rfl⟩ :=
    processFrame_published hOutputs List.mem_cons_self
  refine ⟨json, hJson, ?_⟩
  rw [Input.event, hOutputs, Option.bind_some, List.findSome?_cons, eventOf, handlerOf_itemOf,
    h.parsed json hJson]
  rfl

/-- The event that a buffer leads to, if all is well. -/
theorem Sane.event (hLib : lib.Documented) (h : Sane framework lib series buffer) :
    ∃ json event, jsonOf buffer.header = some json ∧
      (Input.process buffer).event framework lib = some event ∧
      event.Proper lib (.int series) ∧
      event.ends (.int series) = (Input.process buffer).ends series ∧
      event.arrival (.int series) = if (Input.process buffer).joins series = true then
        some (.right (.int buffer.header.frameNumber) (documentOf json).get) else none := by
  obtain ⟨json, hJson, hEvent⟩ := h.published
  have hDoc := h.parsed json hJson
  have hFault := h.faultless
  refine ⟨json, _, hJson, hEvent, ?_⟩
  obtain ⟨acqID, _, hMembers⟩ := Option.bind_eq_some_iff.mp hJson
  have hSeries := h.series
  rw [faultOf] at hFault
  rw [publishedData, Input.ends, Input.joins]
  cases hType : buffer.header.messageType with
  | imageData =>
      simp only [hType] at hMembers
      obtain ⟨hFound, hFrame, _⟩ := imageJson_reads 0 hMembers
      rw [received_document hLib (by decide) hDoc]
      refine ⟨⟨_, _, _, hFound, rfl, hFrame, hFrame⟩, rfl, ?_⟩
      show (if (documentOf json).get SERIES = _ then _ else none) = _
      rw [hFound, hFrame]
      by_cases hSame : buffer.header.series = series
      · rw [hSame, decide_eq_true rfl, decide_eq_true rfl]
        simp
      · have hOther : ¬ some (PyValue.int buffer.header.series) = some (.int series) := by
          intro hEq
          cases hEq
          exact hSame rfl
        rw [if_neg hOther, decide_eq_false hSame, Bool.and_false, if_neg Bool.false_ne_true]
  | imageAppendix => exact ⟨trivial, rfl, rfl⟩
  | globalHeaderNone =>
      simp only [hType] at hMembers
      cases hMembers
      refine ⟨?_, rfl, rfl⟩
      rw [← hSeries (.inl hType)]
      rfl
  | globalHeaderConfig =>
      simp only [hType] at hMembers hFault
      cases hMembers
      refine ⟨⟨?_, ?_⟩, rfl, rfl⟩
      · rw [← hSeries (.inr hType)]
        rfl
      · cases hLoaded : lib.loads (dataOf buffer) with
        | none =>
            rw [hLoaded] at hFault
            cases hFault
        | some doc => exact ⟨doc, received_document hLib (by decide) hLoaded⟩
  | globalHeaderFlatfield =>
      simp only [hType] at hMembers hFault
      exact ⟨published_array hLib _ (by decide) hMembers hFault, rfl, rfl⟩
  | globalHeaderMask =>
      simp only [hType] at hMembers hFault
      exact ⟨published_array hLib _ (by decide) hMembers hFault, rfl, rfl⟩
  | globalHeaderCountrate =>
      simp only [hType] at hMembers hFault
      exact ⟨published_array hLib _ (by decide) hMembers hFault, rfl, rfl⟩
  | globalHeaderAppendix => exact ⟨trivial, rfl, rfl⟩
  | endOfStream =>
      simp only [hType] at hMembers
      cases hMembers
      refine ⟨⟨_, rfl⟩, ?_, rfl⟩
      show decide (some (PyValue.int buffer.header.series) = some (.int series)) = _
      by_cases hSame : buffer.header.series = series
      · rw [hSame, decide_eq_true rfl, decide_eq_true rfl, decide_eq_true rfl]
        rfl
      · rw [decide_eq_false hSame, Bool.and_false, decide_eq_false]
        intro hEq
        cases hEq
        exact hSame rfl

/-- The first buffer of an acquisition, a header, puts its series in force. -/
theorem Sane.begins (hLib : lib.Documented) (h : Sane framework lib series buffer)
    (hHeader : buffer.header.messageType = .globalHeaderNone ∨
      buffer.header.messageType = .globalHeaderConfig) {start : MetaState}
    (hData : ∀ frame, start.writer.frameDataMap frame = none)
    (hOffsets : ∀ frame, start.writer.frameOffsetMap frame = none) :
    ∃ event w, (Input.process buffer).event framework lib = some event ∧
      start.step lib event = some w ∧
      Refines (.int series) start.writer.written w.writer .empty ∧ w.stops = start.stops := by
  obtain ⟨json, hJson, hEvent⟩ := h.published
  obtain ⟨acqID, _, hMembers⟩ := Option.bind_eq_some_iff.mp hJson
  have hFault := h.faultless
  rw [faultOf] at hFault
  have hFound : (documentOf json).get SERIES = some (.int series) := by
    rw [← h.series hHeader]
    rcases hHeader with hType | hType
    · simp only [hType] at hMembers
      cases hMembers
      rfl
    · simp only [hType] at hMembers
      cases hMembers
      rfl
  obtain ⟨w, hHandled, hRefines, hStops⟩ := header_begins hLib hFound hData hOffsets
  rcases hHeader with hType | hType
  · rw [hType] at hEvent
    exact ⟨_, w, hEvent, step_handled hHandled, hRefines, hStops⟩
  · rw [hType] at hEvent
    simp only [hType] at hFault
    cases hLoaded : lib.loads (dataOf buffer) with
    | none =>
        rw [hLoaded] at hFault
        cases hFault
    | some doc =>
        have hReceived : lib.received (isRaw (itemOf .globalHeaderConfig))
            (publishedData framework buffer json) = .document doc := by
          rw [publishedData, hType]
          exact received_document hLib (by decide) hLoaded
        rw [hReceived] at hEvent
        obtain ⟨w', hConfig, hWriter, hSame⟩ := config_written hLib doc hFound hHandled
        exact ⟨_, w', hEvent, step_handled hConfig, hWriter ▸ hRefines, hSame.trans hStops⟩

/-- The dictionary of an image, as the meta writer keeps it. -/
def imageData (buffer : FrameBuffer) : Dict PyValue :=
  (jsonOf buffer.header).elim (fun _ => none) fun json => (documentOf json).get

/-- What is known of an image in the end. -/
def imageEntry (image : FrameBuffer × Int) : PyValue × Int × Dict PyValue :=
  (.int image.1.header.frameNumber, image.2, imageData image.1)

/-- What an input adds to the join. -/
def Input.arrival (series : Nat) : Input → Option (Arrival PyValue Int (Dict PyValue))
  | .process buffer =>
      if (Input.process buffer).joins series then
        some (.right (.int buffer.header.frameNumber) (imageData buffer))
      else none
  | .writeFrame frame offset => some (.left (.int frame) offset)

def Input.Sane (framework : Framework) (lib : Libraries) (series : Nat) :
    Input → Prop
  | .process buffer => MetaWriter.Sane framework lib series buffer
  | .writeFrame _ _ => True

instance : Decidable (Sane framework lib series buffer) :=
  decidable_of_iff ((processFrame framework buffer).isSome ∧
      (∀ json ∈ jsonOf buffer.header, lib.loads (framework.str json) = some (documentOf json)) ∧
      faultOf lib buffer = none ∧
      (buffer.header.messageType = .globalHeaderNone ∨
        buffer.header.messageType = .globalHeaderConfig → buffer.header.series = series))
    ⟨fun h => ⟨h.1, h.2.1, h.2.2.1, h.2.2.2⟩,
      fun h => ⟨h.legible, h.parsed, h.faultless, h.series⟩⟩

instance (input : Input) : Decidable (input.Sane framework lib series) :=
  match input with
  | .process buffer => inferInstanceAs (Decidable (MetaWriter.Sane framework lib series buffer))
  | .writeFrame _ _ => .isTrue trivial

theorem Input.Sane.event (hLib : lib.Documented) {input : Input}
    (h : input.Sane framework lib series) :
    ∃ event, input.event framework lib = some event ∧ event.Proper lib (.int series) ∧
      event.ends (.int series) = input.ends series ∧
      event.arrival (.int series) = input.arrival series := by
  cases input with
  | process buffer =>
      obtain ⟨json, event, hJson, hEvent, hProper, hEnds, hArrival⟩ := MetaWriter.Sane.event hLib h
      refine ⟨event, hEvent, hProper, hEnds, ?_⟩
      rw [hArrival, Input.arrival, imageData, hJson]
      rfl
  | writeFrame frame offset => exact ⟨_, rfl, trivial, rfl, rfl⟩

/-- The events that a sequence of inputs leads to. -/
theorem events_of_inputs (hLib : lib.Documented) {inputs : List Input}
    (hSane : ∀ input ∈ inputs, input.Sane framework lib series) :
    ∃ events, inputs.mapM (Input.event framework lib) = some events ∧
      (∀ event ∈ events, event.Proper lib (.int series)) ∧
      events.countP (WriterEvent.ends (.int series)) = inputs.countP (Input.ends series) ∧
      events.filterMap (WriterEvent.arrival (.int series)) =
        inputs.filterMap (Input.arrival series) := by
  induction inputs with
  | nil => exact ⟨[], rfl, nofun, rfl, rfl⟩
  | cons input inputs ih =>
      obtain ⟨hFirst, hRest⟩ := List.forall_mem_cons.mp hSane
      obtain ⟨event, hEvent, hProper, hEnds, hArrival⟩ := hFirst.event hLib
      obtain ⟨events, hEvents, hPropers, hCount, hArrivals⟩ := ih hRest
      refine ⟨event :: events, ?_, List.forall_mem_cons.mpr ⟨hProper, hPropers⟩, ?_, ?_⟩
      · rw [List.mapM_cons, hEvent, hEvents]
        rfl
      · rw [List.countP_cons, List.countP_cons, hCount, hEnds]
      · rw [List.filterMap_cons, List.filterMap_cons, hArrivals, hArrival]

/-- Only what takes part in the join adds to it. -/
theorem arrivals_filter (inputs : List Input) :
    inputs.filterMap (Input.arrival series) =
      (inputs.filter (Input.joins series)).filterMap (Input.arrival series) := by
  rw [List.filterMap_filter]
  refine List.filterMap_congr fun input _ => ?_
  cases input with
  | process buffer =>
      rw [Input.arrival]
      split
      · rfl
      · rfl
  | writeFrame frame offset => rfl

def Input.buffer? : Input → Option FrameBuffer
  | process buffer => some buffer
  | writeFrame _ _ => none

def Input.written? : Input → Option (Int × Int)
  | process _ => none
  | writeFrame frame offset => some (frame, offset)

/-- What was written and what was processed, each on its own. -/
theorem arrivals_split (inputs : List Input) :
    (inputs.filterMap (Input.arrival series)).Perm
      (((inputs.filterMap Input.written?).map fun entry => .left (.int entry.1) entry.2) ++
        (inputs.filterMap Input.buffer?).filterMap fun buffer =>
          (Input.process buffer).arrival series) := by
  induction inputs with
  | nil => exact .refl _
  | cons input inputs ih =>
      cases input with
      | process buffer =>
          rw [List.filterMap_cons_none (f := Input.written?) rfl,
            List.filterMap_cons_some (f := Input.buffer?) rfl]
          cases hArrival : (Input.process buffer).arrival series with
          | none =>
              rw [List.filterMap_cons_none hArrival, List.filterMap_cons, hArrival]
              exact ih
          | some arrival =>
              rw [List.filterMap_cons_some hArrival, List.filterMap_cons, hArrival]
              exact (ih.cons arrival).trans List.perm_middle.symm
      | writeFrame frame offset => exact ih.cons _

/-- The two inputs of an image. -/
def inputsOf (images : List (FrameBuffer × Int)) : List Input :=
  (images.map fun image => .writeFrame image.1.header.frameNumber image.2) ++
    images.map fun image => .process image.1

theorem arrivals_inputsOf {images : List (FrameBuffer × Int)}
    (hJoins : ∀ image ∈ images, (Input.process image.1).joins series = true) :
    (inputsOf images).filterMap (Input.arrival series) = arrivals (images.map imageEntry) := by
  have hImages : (images.map fun image => Input.process image.1).filterMap
      (Input.arrival series) =
        images.map fun image => .right (.int image.1.header.frameNumber) (imageData image.1) := by
    rw [List.filterMap_map, ← List.filterMap_eq_map]
    refine List.filterMap_congr fun image hMem => ?_
    exact if_pos (hJoins image hMem)
  have hWrites : (images.map fun image =>
      Input.writeFrame image.1.header.frameNumber image.2).filterMap (Input.arrival series) =
        images.map fun image => .left (.int image.1.header.frameNumber) image.2 := by
    rw [List.filterMap_map, ← List.filterMap_eq_map]
    rfl
  rw [inputsOf, List.filterMap_append, hWrites, hImages, arrivals, List.map_map, List.map_map]
  rfl

theorem writeOf_imageEntry (hLib : lib.Documented) (image : FrameBuffer × Int)
    (hSane : Sane framework lib series image.1)
    (hType : image.1.header.messageType = .imageData) :
    writeOf (imageEntry image) = rowOf image := by
  obtain ⟨json, _, hJson, _⟩ := hSane.event hLib
  obtain ⟨acqID, _, hMembers⟩ := Option.bind_eq_some_iff.mp hJson
  simp only [hType] at hMembers
  rw [imageEntry, imageData, hJson]
  exact (imageJson_reads image.2 hMembers).2.2

/-- What the join of an acquisition comes to, once the series is in force. -/
theorem inputs_recorded (hLib : lib.Documented) {before : List (Write PyValue)} {w : MetaState}
    {entries : List (PyValue × Int × Dict PyValue)} {inputs : List Input}
    (hRefines : Refines (.int series) before w.writer .empty)
    (hSane : ∀ input ∈ inputs, input.Sane framework lib series)
    (hKeys : (entries.map Prod.fst).Nodup)
    (hArrivals : (inputs.filterMap (Input.arrival series)).Perm (arrivals entries)) :
    ∃ events w', inputs.mapM (Input.event framework lib) = some events ∧
      exec (MetaState.step lib) w events = some w' ∧
      (∃ rows, w'.writer.written = before ++ rows ∧ rows.Perm (entries.map writeOf)) ∧
      (∀ frame, w'.writer.frameDataMap frame = none) ∧
      (∀ frame, w'.writer.frameOffsetMap frame = none) ∧
      w'.stops = w.stops + inputs.countP (Input.ends series) := by
  obtain ⟨events, hEvents, hProper, hEnds, hOrder⟩ := events_of_inputs hLib hSane
  obtain ⟨w', hExec, hEnd, hCount⟩ := acquisition_run hLib hRefines hProper
  rw [← hOrder] at hArrivals
  obtain ⟨hPairs, hLefts, hRights⟩ := join_complete hKeys hArrivals
  refine ⟨events, w', hEvents, hExec, ⟨_, hEnd.written, hPairs.map writeOf⟩, ?_, ?_, ?_⟩
  · intro frame
    rw [hEnd.data, hRights]
  · intro frame
    rw [hEnd.offsets, hLefts]
  · rw [hCount, hEnds]

/-- Whatever the frame processors do in an acquisition, and in whatever order it comes to the
meta writer: if each image of this series is processed once and written once, every handler
succeeds, the values of every image are written at its offset and once, nothing is left over,
and the base class is asked to stop once for every end of this series. Images and ends of
other series make no difference. -/
theorem acquisition_recorded (hLib : lib.Documented) {start w : MetaState} {header : Dict PyValue}
    {images : List (FrameBuffer × Int)} {inputs : List Input}
    (hHeader : start.handleGlobalHeaderNone lib header = ⟨w, none⟩)
    (hSeries : header SERIES = some (.int series))
    (hData : ∀ frame, start.writer.frameDataMap frame = none)
    (hOffsets : ∀ frame, start.writer.frameOffsetMap frame = none)
    (hSane : ∀ input ∈ inputs, input.Sane framework lib series)
    (hDistinct : (images.map fun image => image.1.header.frameNumber).Nodup)
    (hInputs : (inputs.filter (Input.joins series)).Perm (inputsOf images)) :
    ∃ events w', inputs.mapM (Input.event framework lib) = some events ∧
      exec (MetaState.step lib) w events = some w' ∧
      (∃ rows, w'.writer.written = start.writer.written ++ rows ∧
        rows.Perm (images.map rowOf)) ∧
      (∀ frame, w'.writer.frameDataMap frame = none) ∧
      (∀ frame, w'.writer.frameOffsetMap frame = none) ∧
      w'.stops = start.stops + inputs.countP (Input.ends series) := by
  obtain ⟨w', hHandled, hRefines, hStops⟩ := header_begins hLib hSeries hData hOffsets
  cases hHeader.symm.trans hHandled
  have hMember : ∀ image ∈ images, Input.process image.1 ∈ inputs ∧
      (Input.process image.1).joins series = true := by
    intro image hMem
    have hInput : Input.process image.1 ∈ inputsOf images :=
      List.mem_append_right _ (List.mem_map_of_mem hMem)
    exact List.mem_filter.mp (hInputs.mem_iff.mpr hInput)
  have hOrder : (inputs.filterMap (Input.arrival series)).Perm
      (arrivals (images.map imageEntry)) := by
    rw [arrivals_filter, ← arrivals_inputsOf fun image hMem => (hMember image hMem).2]
    exact hInputs.filterMap _
  have hKeys : ((images.map imageEntry).map Prod.fst).Nodup := by
    have hInjective : Function.Injective PyValue.int := fun _ _ h => PyValue.int.inj h
    have hNumbers := hDistinct.map hInjective
    rw [List.map_map] at hNumbers ⊢
    exact hNumbers
  have hSame : (images.map imageEntry).map writeOf = images.map rowOf := by
    rw [List.map_map]
    refine List.map_congr_left fun image hMem => ?_
    obtain ⟨hInput, hJoins⟩ := hMember image hMem
    obtain ⟨hType, _⟩ := Bool.and_eq_true_iff.mp hJoins
    exact writeOf_imageEntry hLib image (hSane _ hInput) (of_decide_eq_true hType)
  rw [← hSame, ← hStops]
  exact inputs_recorded hLib hRefines hSane hKeys hOrder

def sampleBuffer (type : EigerMessageType) (frame : Int) (series : Nat) : FrameBuffer :=
  ⟨{ ImageMessage.sample.header with
      messageType := type, frameNumber := frame, series := series }, fun _ => 0⟩

/-- Two images of series 1; the first is written before its buffer is processed. An image and
the end of series 8 come in between. -/
def sampleInputs : List Input :=
  [.process (sampleBuffer .globalHeaderNone 0 1), .writeFrame 5 0,
    .process (sampleBuffer .imageData 6 1), .process (sampleBuffer .imageData 6 8),
    .process (sampleBuffer .imageData 5 1), .process (sampleBuffer .endOfStream 0 8),
    .process (sampleBuffer .endOfStream 0 1), .writeFrame 6 1]

def sampleLibraries : Libraries :=
  documented (loadsOf ImageMessage.sampleFramework ([sampleBuffer .globalHeaderNone 0 1,
    sampleBuffer .imageData 5 1, sampleBuffer .imageData 6 1, sampleBuffer .imageData 6 8,
    sampleBuffer .endOfStream 0 1, sampleBuffer .endOfStream 0 8].map FrameBuffer.header))

def sampleSeries : Dict PyValue := fun key => if key = SERIES then some (.int 1) else none

theorem sample_acquisition_recorded :
    ∃ w events w', MetaState.handleGlobalHeaderNone sampleLibraries sampleSeries
        ⟨.initial, []⟩ = ⟨w, none⟩ ∧
      sampleInputs.mapM (Input.event ImageMessage.sampleFramework sampleLibraries) = some events ∧
      exec (MetaState.step sampleLibraries) w events = some w' ∧ w'.stops = 1 ∧
      w'.writer.written.Perm [rowOf (sampleBuffer .imageData 5 1, 0),
        rowOf (sampleBuffer .imageData 6 1, 1)] := by
  have hSane : ∀ input ∈ sampleInputs,
      input.Sane ImageMessage.sampleFramework sampleLibraries 1 := by
    decide +kernel
  have hInputs : (sampleInputs.filter (Input.joins 1)).Perm
      (inputsOf [(sampleBuffer .imageData 5 1, 0), (sampleBuffer .imageData 6 1, 1)]) := by
    have hFiltered : sampleInputs.filter (Input.joins 1) =
        [.writeFrame 5 0, .process (sampleBuffer .imageData 6 1),
          .process (sampleBuffer .imageData 5 1), .writeFrame 6 1] := rfl
    rw [hFiltered]
    exact .cons _ ((List.perm_append_singleton _ [_, _]).trans (.cons _ (.swap _ _ _)))
  have hHeader : MetaState.handleGlobalHeaderNone sampleLibraries sampleSeries ⟨.initial, []⟩ =
      ⟨_, none⟩ := rfl
  obtain ⟨events, w', hEvents, hExec, ⟨rows, hWritten, hRows⟩, _, _, hStops⟩ :=
    acquisition_recorded (documented_documented _) hHeader rfl (fun _ => rfl) (fun _ => rfl)
      hSane (by decide) hInputs
  refine ⟨_, events, w', hHeader, hEvents, hExec, hStops, ?_⟩
  rw [hWritten]
  exact hRows

end Buffers

end Eiger.MetaWriter
