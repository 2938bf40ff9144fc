import Unbundled.Files.Path

namespace Unbundled.Http

/-- Media types by the extensions of files, of those that a site is made of. The full list of types
is far longer; the extensions of all others are left out and count as unknown. -/
def mediaTypes : List (String × List String) := [
  ("text/html", ["html", "htm", "shtml"]),
  ("text/plain", ["txt", "text", "log", "conf", "def", "list", "in", "ini"]),
  ("text/css", ["css"]),
  ("text/csv", ["csv"]),
  ("text/javascript", ["js", "mjs"]),
  ("text/jsx", ["jsx"]),
  ("text/markdown", ["md", "markdown", "mkd"]),
  ("text/xml", ["xml"]),
  ("text/x-yaml", ["yaml", "yml"]),
  ("text/x-toml", ["toml"]),
  ("text/tab-separated-values", ["tsv"]),
  ("text/calendar", ["ics"]),
  ("text/vtt", ["vtt"]),
  ("text/x-sass", ["sass"]),
  ("text/x-scss", ["scss"]),
  ("text/less", ["less"]),
  ("text/x-rust", ["rs"]),
  ("image/png", ["png"]),
  ("image/jpeg", ["jpg", "jpeg", "jpe"]),
  ("image/gif", ["gif"]),
  ("image/svg+xml", ["svg", "svgz"]),
  ("image/webp", ["webp"]),
  ("image/avif", ["avif"]),
  ("image/bmp", ["bmp"]),
  ("image/tiff", ["tif", "tiff"]),
  ("image/x-icon", ["ico"]),
  ("application/json", ["json", "map"]),
  ("application/json5", ["json5"]),
  ("application/wasm", ["wasm"]),
  ("application/pdf", ["pdf"]),
  ("application/zip", ["zip"]),
  ("application/gzip", ["gz"]),
  ("application/x-tar", ["tar"]),
  ("application/xhtml+xml", ["xhtml"]),
  ("application/manifest+json", ["webmanifest"]),
  ("application/x-sh", ["sh"]),
  ("application/rtf", ["rtf"]),
  ("application/vnd.ms-fontobject", ["eot"]),
  ("application/font-woff", ["woff"]),
  ("font/woff2", ["woff2"]),
  ("font/ttf", ["ttf"]),
  ("font/otf", ["otf"]),
  ("audio/mpeg", ["mp3"]),
  ("audio/ogg", ["ogg", "oga", "opus"]),
  ("audio/wav", ["wav"]),
  ("audio/flac", ["flac"]),
  ("video/mp4", ["mp4", "mp4v", "mpg4"]),
  ("video/webm", ["webm"]),
  ("video/ogg", ["ogv"]),
  ("video/quicktime", ["mov", "qt"]),
  ("video/vnd.dlna.mpeg-tts", ["ts", "tts"])]

def mediaType (path : String) : String :=
  match Files.Path.extension? path with
  | none => "application/octet-stream"
  | some ext =>
    ((mediaTypes.find? fun t => t.2.contains (Text.lower ext)).map (·.1)).getD
      "application/octet-stream"

end Unbundled.Http
