import EigerDetector.Library.Template

/-! The template files of a deployment, put together from their pieces, and the files which they
are promised to give. -/
namespace Eiger.Deploy

open Templates

def text (s : String) : Text := s.toList

/-- A number as it is printed. -/
def str (n : Nat) : Text := text (toString n)

section Files

def frJson : List Piece :=
  [.plain (text "[\n  \x7b\n    \"decoder_type\": \"Eiger\",\n    \"decoder_path\": \""),
    .named (text "DETECTOR_ROOT"),
    .plain (text "/prefix/lib\",\n    \"rx_type\": \"zmq\",\n    \"rx_address\": \""),
    .named (text "IP"),
    .plain (text "\",\n    \"rx_ports\": \""),
    .plain (text "3160"),
    .named (text "RX_PORT_SUFFIX"),
    .plain (text ",\",\n    \"decoder_config\": \x7b\n      \"enable_packet_logging\": false,\n"),
    .plain (text "      \"frame_timeout_ms\": 1000,\n      \"detector_model\": \""),
    .named (text "SENSOR"),
    .plain (text "\"\n    \x7d\n  \x7d\n]\n")]

def fpJson : List Piece :=
  [.plain (text "[\n  \x7b\n    \"fr_setup\": \x7b\n"),
    .plain (text "      \"fr_ready_cnxn\": \"tcp://127.0.0.1:"),
    .named (text "RD_PORT"),
    .plain (text "\",\n      \"fr_release_cnxn\": \"tcp://127.0.0.1:"),
    .named (text "RL_PORT"),
    .plain (text "\"\n    \x7d,\n    \"meta_endpoint\": \"tcp://*:"),
    .named (text "META_PORT"),
    .plain (text "\"\n  \x7d,\n  "),
    .named (text "LOAD_ENTRIES"),
    .plain (text ",\n  "),
    .named (text "CONNECT_ENTRIES"),
    .plain (text ",\n  "),
    .named (text "CONFIG_ENTRIES"),
    .plain (text "\n]\n")]

/-- The first lines of both scripts of a process. -/
def heading : List Piece :=
  [.plain (text "#!/bin/bash\n\nSCRIPT_DIR=\""), .dollar, .plain (text "( cd \""), .dollar,
    .plain (text "( dirname \""), .dollar, .plain (text "0\" )\" && pwd )\"\n\n")]

/-- The options which both scripts end with. -/
def options (config : String) : List Piece :=
  [.plain (text " --ctrl=tcp://0.0.0.0:"),
    .named (text "CTRL_PORT"),
    .plain (text " --ready=tcp://127.0.0.1:"),
    .named (text "READY_PORT"),
    .plain (text " --release=tcp://127.0.0.1:"),
    .named (text "RELEASE_PORT"),
    .plain (text " --json_file="),
    .dollar,
    .plain (text "SCRIPT_DIR/" ++ text config),
    .named (text "NUMBER"),
    .plain (text ".json --logconfig "),
    .dollar,
    .plain (text "SCRIPT_DIR/log4cxx.xml\n")]

def frSh : List Piece :=
  heading ++
    [.braced (text "NUMA"),
      .named (text "OD_ROOT"),
      .plain (text "/prefix/bin/frameReceiver --sharedbuf=odin_buf_"),
      .named (text "BUFFER_IDX"),
      .plain (text " -m "),
      .named (text "SHARED_MEMORY"),
      .plain (text " --iothreads "),
      .named (text "IO_THREADS")] ++ options "fr"

def fpSh : List Piece :=
  heading ++
    [.plain (text "export HDF5_PLUGIN_PATH="),
      .braced (text "HDF5_FILTERS"),
      .plain (text "\n\n"),
      .braced (text "NUMA"),
      .named (text "OD_ROOT"),
      .plain (text "/prefix/bin/frameProcessor")] ++ options "fp"

def eigerMetaSh : List Piece :=
  [.plain (text "#!/bin/bash\n\ncd "),
    .named (text "OD_ROOT"),
    .plain (text "\nexport PYTHONPATH="),
    .named (text "EIGER_DETECTOR_PATH"),
    .plain (text "/data/tools/python/\n"),
    .braced (text "NUMA"),
    .plain (text "prefix/bin/meta_writer -w metalistener.eiger_meta_writer.EigerMetaWriter"),
    .plain (text " -i "),
    .named (text "IP_LIST"),
    .plain (text "\n")]

end Files

section Promised

/-- The configuration of a receiver that takes its parts from a port. -/
def receiverConfig (root ip port sensor : Text) : Text :=
  [text "[\n  \x7b\n    \"decoder_type\": \"Eiger\",\n    \"decoder_path\": \"", root,
    text "/prefix/lib\",\n    \"rx_type\": \"zmq\",\n    \"rx_address\": \"", ip,
    text "\",\n    \"rx_ports\": \"", port,
    text ",\",\n    \"decoder_config\": \x7b\n      \"enable_packet_logging\": false,\n",
    text "      \"frame_timeout_ms\": 1000,\n      \"detector_model\": \"", sensor,
    text "\"\n    \x7d\n  \x7d\n]\n"].flatten

/-- The configuration of a processor with its ports and its plugin entries. -/
def processorConfig (ready release metaPort : Nat) (load connect config : Text) : Text :=
  [text "[\n  \x7b\n    \"fr_setup\": \x7b\n",
    text "      \"fr_ready_cnxn\": \"tcp://127.0.0.1:", str ready,
    text "\",\n      \"fr_release_cnxn\": \"tcp://127.0.0.1:", str release,
    text "\"\n    \x7d,\n    \"meta_endpoint\": \"tcp://*:", str metaPort,
    text "\"\n  \x7d,\n  ", load, text ",\n  ", connect, text ",\n  ", config,
    text "\n]\n"].flatten

def scriptHeading : Text :=
  text "#!/bin/bash\n\nSCRIPT_DIR=\"$( cd \"$( dirname \"$0\" )\" && pwd )\"\n\n"

/-- The ports of a script, and the configuration with this number. -/
def scriptOptions (config : String) (ctrl ready release number : Nat) : Text :=
  [text " --ctrl=tcp://0.0.0.0:", str ctrl, text " --ready=tcp://127.0.0.1:", str ready,
    text " --release=tcp://127.0.0.1:", str release, text " --json_file=$SCRIPT_DIR/",
    text config, str number, text ".json --logconfig $SCRIPT_DIR/log4cxx.xml\n"].flatten

def receiverScript (numa root buffer memory threads : Text) (ctrl ready release number : Nat) :
    Text :=
  [scriptHeading, numa, root, text "/prefix/bin/frameReceiver --sharedbuf=odin_buf_", buffer,
    text " -m ", memory, text " --iothreads ", threads,
    scriptOptions "fr" ctrl ready release number].flatten

def processorScript (numa root filters : Text) (ctrl ready release number : Nat) : Text :=
  [scriptHeading, text "export HDF5_PLUGIN_PATH=", filters, text "\n\n", numa, root,
    text "/prefix/bin/frameProcessor", scriptOptions "fp" ctrl ready release number].flatten

/-- The script of a meta listener that listens to these endpoints. -/
def metaListenerScript (numa root detectorPath : Text) (endpoints : List Text) : Text :=
  [text "#!/bin/bash\n\ncd ", root, text "\nexport PYTHONPATH=", detectorPath,
    text "/data/tools/python/\n", numa,
    text "prefix/bin/meta_writer -w metalistener.eiger_meta_writer.EigerMetaWriter",
    text " -i ", (text ",").intercalate endpoints, text "\n"].flatten

end Promised

end Eiger.Deploy
