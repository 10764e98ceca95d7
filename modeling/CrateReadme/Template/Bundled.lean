/-!
# The bundled template

The readme that is made without a template of one's own: the name of the crate as a title, badges,
the documentation and the link definitions.
-/

namespace CrateReadme.Template

def bundledLines : List String :=
  ["# \x7b\x7b crate \x7d\x7d",
   "",
   "\x7b%- set badges = [] %\x7d",
   "\x7b%- if repository_host == \"github.com\" %\x7d",
   "\x7b%- set repo = repository | replace(\"https://github.com/\", \"\") | trim(\"/\") %\x7d",
   "\x7b%- set _ = badges.append(\"[![Rust](https://github.com/\" ~ repo ~ \"/actions/work" ++
     "flows/rust.yml/badge.svg)](https://github.com/\" ~ repo ~ \"/actions/workflows/rust.ym" ++
     "l)\") %\x7d",
   "\x7b%- endif %\x7d",
   "\x7b%- if target == \"lib\" %\x7d",
   "\x7b%- set _ = badges.append(\"[![crates.io](https://img.shields.io/crates/v/\" ~ crat" ++
     "e ~ \".svg)](https://crates.io/crates/\" ~ crate ~ \")\") %\x7d",
   "\x7b%- set _ = badges.append(\"[![docs.rs](https://img.shields.io/docsrs/\" ~ crate ~ " ++
     "\")](https://docs.rs/\" ~ crate ~ \")\") %\x7d",
   "\x7b%- endif %\x7d",
   "\x7b%- if license %\x7d",
   "\x7b%- set _ = badges.append(\"![License: \" ~ license ~ \"](https://img.shields.io/ba" ++
     "dge/license-\" ~ (license | replace(\"-\", \"--\") | urlencode) ~ \"-blue.svg)\") %" ++
     "\x7d",
   "\x7b%- endif %\x7d",
   "\x7b%- if rust_version %\x7d",
   "\x7b%- set _ = badges.append(\"[![Rust Version: \" ~ rust_version ~ \"](https://img.sh" ++
     "ields.io/badge/rustc-\" ~ rust_version ~ \"-orange.svg)](https://blog.rust-lang.org/)" ++
     "\") %\x7d",
   "\x7b%- endif %\x7d",
   "\x7b%- if badges %\x7d",
   "",
   "\x7b\x7b badges | join(\" \") \x7d\x7d",
   "\x7b%- endif %\x7d",
   "",
   "\x7b\x7b readme \x7d\x7d",
   "\x7b%- if links %\x7d",
   "",
   "\x7b\x7b links \x7d\x7d",
   "\x7b%- endif %\x7d",
   ""]

def bundled : String :=
  "\n".intercalate bundledLines

end CrateReadme.Template
