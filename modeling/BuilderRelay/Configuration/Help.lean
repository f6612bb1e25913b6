/-!
# Help and version

What the relay prints when asked for its options or its version.
-/

namespace BuilderRelay.CommandLine

def helpLines : List String := [
  "Start the relay API server",
  "",
  "Usage: relay [OPTIONS]",
  "",
  "Options:",
  "      --listen-addr <LISTEN_ADDR>",
  "          Listen address for the webserver [default: localhost:9062]",
  "      --beacon-uri <BEACON_URI>",
  "          Beacon node endpoint [env: BEACON_URI]",
  "      --redis-uri <REDIS_URI>",
  "          Redis uri [env: REDIS_URI] [default: localhost:6379]",
  "      --pprof",
  "          Enable profiling endpoints",
  "      --getheader-wait-ms <GETHEADER_WAIT_MS>",
  "          Milliseconds to wait on getHeader requests [default: 500]",
  "      --secret-key <SECRET_KEY>",
  "          Secret key for signing bids, 0x prefixed hex",
  "      --json[=<JSON>]",
  "          Log in JSON format instead of text, `--json=false` overrides the environment [env: LOG_JSON] [possible values: true, false]",
  "      --loglevel <LOG_LEVEL>",
  "          Log level: trace, debug, info, warn/warning, error, fatal, panic [env: LOG_LEVEL] [default: info]",
  "      --mainnet",
  "          Use Mainnet genesis fork version 0x00000000 (for signature validation)",
  "      --kiln",
  "          Use Kiln genesis fork version 0x70000069 (for signature validation)",
  "      --ropsten",
  "          Use Ropsten genesis fork version 0x80000069 (for signature validation)",
  "      --sepolia",
  "          Use Sepolia genesis fork version 0x90000069 (for signature validation)",
  "      --genesis-fork-version <GENESIS_FORK_VERSION>",
  "          Use a custom genesis fork version (for signature validation) [env: GENESIS_FORK_VERSION]",
  "  -h, --help",
  "          Print help",
  "  -V, --version",
  "          Print version"]

def helpText : String := String.join (helpLines.map (· ++ "\n"))

def versionText : String := "relay 0.1.0\n"

end BuilderRelay.CommandLine
