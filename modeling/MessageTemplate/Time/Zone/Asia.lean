/-! The recorded histories of the zones of Asia. -/
namespace MessageTemplate.Zone

def asia : List (String × String) := [
  ("Asia/Aden",
    "10794,10800|-afs0buB19yc1bdB|<+03>-3"),
  ("Asia/Almaty",
    "18468,18000,25200d,21600,21600,25200d,21600d,18000,25200d|-nu1a90B37a0d0Dqi27w0C9et80D9d440C" ++
    "9et80D9d440C9et80D9eys0C9d6w0E9d1c0F9d1c0E9d1c0F9d1c0E9d1c0F9d1c0E9d1c0F9d1c0E9d1c0F9d1c0E9d" ++
    "1c0F9q000E9d1c0G9d440H5reo0E3ljw0F9d1c0E9d1c0F9d1c0E9d1c0F9d1c0E9d1c0F9d1c0E9q000Fasw00E7x6o" ++
    "0Fasw00E7x6o0Fasw00E7x6o0Fb5uo0E7k800Fb5uo0E7k800Fb5uo0E7x6o0Fasw00E7x6o0Fasw00E7x6o0Fb5uo0E" ++
    "a37rs0B78xazjB|<+05>-5"),
  ("Asia/Amman",
    "8624,10800d,7200,7200,10800d,10800|-kcrtbkCm566fkB60l80Cawo40B7v980Cawo40B7v980Cayis0B9gnw0C" ++
    "9b9g0B7v980Cautg0B7v980C3e6840B9et80C9io40B9cyk0C9d440B9cyk0C9d440B9px80Cayis0B7rjw0Cag040B8" ++
    "a2k0C9zc40B8drw0Ca31g0B8zzw0C9d440B9cyk0C9d440B8n180Cag040B8a5c0Dafxc0B8n400Da2yo0B8n400Da2y" ++
    "o0B8n400Depmo0E4deo0D9o5c0E9ew00D9b6o0E9ew00D9d1c0B9d1c0D9d1c0Basw00D7x6o0Bafxc0D8n400B9d1c0" ++
    "D9d1c0Basw00D7x6o0Basw00D7x6o0Bb5uo0D7k800Bb5uo0D7k800Bb5uo0D7x6o0Basw00D7x6o0Bwel80C51k40Bb" ++
    "5uo0D7k800Bb5uo0D7x6o0Basw00D7x6o0Basw00D7x6o0Basw00D7x6o0Basw00D7x6o0Bb5uo0D7k800Bb5uo0D64d" ++
    "c0Bclpc0F7y4ejjF|<+03>-3"),
  ("Asia/Anadyr",
    "42596,43200,50400d,46800,46800d,43200,46800d,43200d,39600,43200|-nu1sv8B379zj8Dqi27w0C9et80D" ++
    "9d440E9ew00B9d440E9et80B9eys0E9d6w0F9d1c0G9d1c0F9d1c0G9d1c0F9d1c0G9d1c0F9d1c0G9d1c0F9d1c0G9d" ++
    "1c0F9d1c0G9q000F9d1c0H9d440I5reo0F3ljw0G9d1c0F9d1c0G9d1c0F9d1c0G9d1c0F9d1c0G9d1c0F9q000Gasw0" ++
    "0F7x6o0Gasw00F7x6o0Gasw00F7x6o0Gb5uo0F7k800Gb5uo0F7k800Gb5uo0F7x6o0Gasw00F7x6o0Gasw00F7x6o0G" ++
    "b5uo0F7k800Gb5uo0F7k800Gb5uo0F7k800Gb5uo0F7x6o0Gasw00F7x6o0Gasw00F7x6o0Hb5xg0I7k800FdzvtzjF|" ++
    "<+12>-12"),
  ("Asia/Aqtau",
    "12064,14400,18000,21600,21600d,18000,21600d,18000d,14400,18000|-nu15b4B379y74Cqrh3w0D9cyk0E9" ++
    "ew00C9d440E9et80C9eys0E9d6w0F9d1c0G9d1c0F9d1c0G9d1c0F9d1c0G9d1c0F9d1c0G9d1c0F9d1c0G9d1c0F9d1" ++
    "c0G9q000F9d1c0H9d440I5reo0F3ljw0G9d1c0F9d1c0G9d1c0F9d1c0G9d1c0I9d440H9d1c0I9q000Hasw00I7x6o0" ++
    "Hasw00I7x6o0Hasw00I7x6o0Hb5uo0I7k800Hb5uo0I7k800Hb5uo0I7x6o0Hasw00I7x6o0Hasw00I7x6o0Hb5uo0Fh" ++
    "c4x7jF|<+05>-5"),
  ("Asia/Aqtobe",
    "13720,14400,18000,21600d,21600,18000,21600d,18000d,14400,21600d,18000|-nu16l4B379zh4Cqi27w0D" ++
    "9et80E9d1c0D9ew00C9d440D9et80C9eys0D9d6w0F9d1c0G9d1c0F9d1c0G9d1c0F9d1c0G9d1c0F9d1c0G9d1c0F9d" ++
    "1c0G9d1c0F9d1c0G9q000F9d1c0H9d440I5reo0F3ljw0G9d1c0F9d1c0G9d1c0F9d1c0G9d1c0F9d1c0G9d1c0F9q00" ++
    "0Gasw00F7x6o0Gasw00F7x6o0Gasw00F7x6o0Gb5uo0F7k800Gb5uo0F7k800Gb5uo0F7x6o0Gasw00F7x6o0Gasw00F" ++
    "7x6o0Gb5uo0Fhc4zzjF|<+05>-5"),
  ("Asia/Ashgabat",
    "14012,14400,21600d,18000,18000,21600d,18000d,14400,18000|-nu16t8B379zp8Dqi27w0C9et80D9d440C9" ++
    "et80D9d440C9et80D9eys0C9d6w0E9d1c0F9d1c0E9d1c0F9d1c0E9d1c0F9d1c0E9d1c0F9d1c0E9d1c0F9d1c0E9d1" ++
    "c0F9q000E9d1c0G9d440H5reo0Do0b7vjD|<+05>-5"),
  ("Asia/Atyrau",
    "12464,10800,18000,21600,21600d,18000,21600d,18000d,14400,18000|-nu15m8B37a1a8Cqrh140D9cyk0E9" ++
    "ew00C9d440E9et80C9eys0E9d6w0F9d1c0G9d1c0F9d1c0G9d1c0F9d1c0G9d1c0F9d1c0G9d1c0F9d1c0G9d1c0F9d1" ++
    "c0G9q000F9d1c0H9d440I5reo0F3ljw0G9d1c0F9d1c0G9d1c0F9d1c0G9d1c0F9d1c0G9d1c0F9q000Gasw00F7x6o0" ++
    "Gasw00F7x6o0Gasw00F7x6o0Hb5xg0I7k800Hb5uo0I7k800Hb5uo0I7x6o0Hasw00I7x6o0Hasw00I7x6o0Hb5uo0Fh" ++
    "c4x7jF|<+05>-5"),
  ("Asia/Baghdad",
    "10660,10656,10800,14400d,10800,14400d|-15r1hk4Bem11c4Cxkn3w0D7v980C9b9g0D9gnw0C9eys0D9et80C9" ++
    "d440D9b9g0E9d1c0F9d1c0E9d1c0F9d1c0E9d1c0F9d1c0E9d1c0F9d1c0E9d1c0F9q000E9f1k0F9ew00E9ew00F9ew" ++
    "00E9d1c0F9ew00E9d1c0F9ew00E9d1c0F9ew00E9ew00F9ew00E9d1c0F9ew00E9d1c0F9ew00E9d1c0F9ew00E9ew00" ++
    "F9ew00E9d1c0F9ew00E9d1c0F9ew00E9d1c0F9ew00E9ew00F9ew00E9d1c0F9ew00E9d1c0F9ew00E9d1c0F9ew00Ef" ++
    "tcjnjE|<+03>-3"),
  ("Asia/Bahrain",
    "12140,12600,14400,10800|-eukpd8B1a1eb8Cetwby0Dy9703jD|<+03>-3"),
  ("Asia/Baku",
    "11964,10800,18000d,14400,14400,18000d,14400d,10800,18000d,14400|-nu158cBh4tkwcDckinw0C9et80D" ++
    "9d440C9et80D9d440C9et80D9eys0C9d6w0E9d1c0F9d1c0E9d1c0F9d1c0E9d1c0F9d1c0E9d1c0F9d1c0E9d1c0F9d" ++
    "1c0E9d1c0F9q000E9d1c0G9d440H9d1c0G9d1c0E1twdk0Iasw00J7x3w0Casw00D7x6o0Casw00D7x6o0Cb5uo0D7k8" ++
    "00Cb5uo0D7k800Cb5uo0D7x6o0Casw00D7x6o0Casw00D7x6o0Cb5uo0D7k800Cb5uo0D7k800Cb5uo0D7k800Cb5uo0" ++
    "D7x6o0Casw00D7x6o0Casw00D7x6o0Cb5uo0D7k800Cb5uo0D7k800Cb5uo0D7x6o0Casw00D7x6o0Casw00D7x6o0Ca" ++
    "sw00DblsznjD|<+04>-4"),
  ("Asia/Bangkok",
    "24124,24124,25200|-1ayyla4Bl06800C1phce9nC|<+07>-7"),
  ("Asia/Barnaul",
    "20100,21600,28800d,25200,25200,28800d,25200d,21600,25200d,25200|-q4ljicB5hu6ucDqi27w0C9et80D" ++
    "9d440C9et80D9d440C9et80D9eys0C9d6w0E9d1c0F9d1c0E9d1c0F9d1c0E9d1c0F9d1c0E9d1c0F9d1c0E9d1c0F9d" ++
    "1c0E9d1c0F9q000E9d1c0G9d440H5reo0E3ljw0F9d1c0E9d1c0F9d1c0E9d1c0F9d1c0E9d1c0F38fo0I64og0H9q00" ++
    "0Gasw00H7x6o0Gasw00H7x6o0Gasw00H7x6o0Gb5uo0H7k800Gb5uo0H7k800Gb5uo0H7x6o0Gasw00H7x6o0Gasw00H" ++
    "7x6o0Gb5uo0H7k800Gb5uo0H7k800Gb5uo0H7k800Gb5uo0H7x6o0Gasw00H7x6o0Gasw00H7x6o0Gb5uo0H7k800E1v" ++
    "bzw0Hqnc40Ebdw43jE|<+07>-7"),
  ("Asia/Beirut",
    "8520,10800d,7200|-1ayy98oCkzyucoBaunw0C88dg0B9et80C8yas0Ba2vw0Ca31g0B7k580Chjqo40B7v980Cawo4" ++
    "0B7v980Cawo40B7v980Cayis0B7v980Cawo40B7v980C5lhs40B56yk0Cawo40B7v980Cawo40B7v980Cawo40B7v980" ++
    "Cayis0B7v980Cawo40B7v980Cautg0B7v980C2wxus0B8n180Ca4w40B8n180Ca4w40B8n180Ca4w40B8n180Cbs5g0B" ++
    "71mk0Calk40B86d80Ca4w40B8n180Ca4w40B8n180Ca6qs0B80t80C905g0B9cyk0C9d440B9cyk0C9d440B9cyk0C9q" ++
    "2s0B9cyk0C9d440B9cyk0C9d440B9cyk0C9d440Bb5rw0C7kas0Bb5rw0C7kas0Bb5rw0C7x9g0Bast80C7x9g0Bast8" ++
    "0C7x9g0Bb5rw0C7kas0Bb5rw0C7kas0Bb5rw0C7kas0Bb5rw0C7x9g0Bast80C7x9g0Bast80C7x9g0Bb5rw0C7kas0B" ++
    "b5rw0C7kas0Bb5rw0C7x9g0Bast80C7x9g0Bast80C7x9g0Bast80C7x9g0Bb5rw0C7kas0Bb5rw0C7kas0Bb5rw0C7x" ++
    "9g0Bast80C7x9g0Bast80C7x9g0Bb5rw0C7kas0Bb5rw0C7kas0Bb5rw0C7x9g0Bast80C7x9g0Bast80C7x9g0Bast8" ++
    "0C7x9g0Bb5rw0C7kas0Bb5rw0C7kas0Bb5rw0C7x9g0Bast80C7x9g0Bast80C7x9g0Bb5rw0C7kas0Bb5rw0C7kas0B" ++
    "b5rw0C7kas0Bb5rw0C7x9g0Bast80C7x9g0Bast80C|EET-2EEST,M3.5.0/0,M10.5.0/0"),
  ("Asia/Bishkek",
    "17904,18000,25200d,21600,21600,25200d,21600d,21600d|-nu19tcB379zxcDqi27w0C9et80D9d440C9et80D" ++
    "9d440C9et80D9eys0C9d6w0E9d1c0F9d1c0E9d1c0F9d1c0E9d1c0F9d1c0E9d1c0F9d1c0E9d1c0F9d1c0E9d1c0F9q" ++
    "000E9d1c0G7vc00Bbkl80G8n180Ba31g0G8n180Ba31g0G8n180Ba31g0G8n180Ba31g0G8zzw0B9db20Hast80B7x9g" ++
    "0Hast80B7x9g0Hb5rw0B7kas0Hb5rw0B7kas0Hb5rw0B7x9g0Hast80B7x9g0Hast80B7x9g0Hb5rw0B7kas0H73aa0D" ++
    "gxhgbjD|<+06>-6"),
  ("Asia/Brunei",
    "27580,27000,28800|-mvofy4B3khxs4C1itqj5jC|<+08>-8"),
  ("Asia/Chita",
    "27232,28800,36000d,32400,32400,36000d,32400d,28800,36000,36000d,32400|-q4cfogB5hkxggDqi27w0C" ++
    "9et80D9d440C9et80D9d440C9et80D9eys0C9d6w0E9d1c0F9d1c0E9d1c0F9d1c0E9d1c0F9d1c0E9d1c0F9d1c0E9d" ++
    "1c0F9d1c0E9d1c0F9q000E9d1c0G9d440H5reo0E3ljw0F9d1c0E9d1c0F9d1c0E9d1c0F9d1c0E9d1c0F9d1c0E9q00" ++
    "0Fasw00E7x6o0Fasw00E7x6o0Fasw00E7x6o0Fb5uo0E7k800Fb5uo0E7k800Fb5uo0E7x6o0Fasw00E7x6o0Fasw00E" ++
    "7x6o0Fb5uo0E7k800Fb5uo0E7k800Fb5uo0E7k800Fb5uo0E7x6o0Fasw00E7x6o0Fasw00E7x6o0Fb5uo0E7k800I1v" ++
    "bzw0Hqnew0Dbdw9njD|<+09>-9"),
  ("Asia/Colombo",
    "19164,19172,19800,21600d,23400d,23400,21600,19800|-1ayyhgcBdkh6nsCisle6kDcajy0E1mp2u0Cqetjw0" ++
    "F7x5a0G4xvqq0CgktuxjC|<+0530>-5:30"),
  ("Asia/Damascus",
    "8712,10800d,7200,10800|-q3gk20C5k6q0B8n180Ca31g0B8n180Ca31g0B8n180Ca31g0B8zzw0Ck4hk40B7yyk0C" ++
    "awo40B7tek0Cb0dg0B7v980Cawo40B7tek0Calk40B887w0Cawo40B7v980Cayis0B7v980Cawo40B7v980Cawo40B7v" ++
    "980Cawo40B7v980Cayis0B7v980Cawo40B7v980Cawo40B7v980Cawo40B7v980Cayis0B7v980Cawo40B6bp80Ccg84" ++
    "0B6bp80C2eh1g0B8zzw0C9ts40B8zzw0Cpvk40Bc33w0C7cw40Bcjrw0C6zxg0Bbtuk0C7rpg0B9gnw0C9d440B9cyk0" ++
    "C9et80B9et80C9rxg0B91uk0C92040B9et80C9o840B9et80C9d440B9et80C9eys0B9et80C9b9g0B9gnw0C99es0B9" ++
    "iik0C9d440B9et80C9eys0B9et80C9d440B9et80C9d440B9et80C9d440B9et80C9eys0B9et80C9d440B9et80C9d4" ++
    "40B8y580C9q2s0Bb5rw0C7x9g0Baunw0C7ig40Bb5rw0C7x9g0Bast80C7x9g0Bast80C7x9g0Bast80C7x9g0Bast80" ++
    "C7x9g0Bb5rw0C7kas0Bb5rw0C7kas0Bb5rw0C7x9g0Bast80C7x9g0Bast80C7x9g0Bast80C7x9g0Bb5rw0C7kas0Bb" ++
    "5rw0C7kas0Bb5rw0D7y4hbjD|<+03>-3"),
  ("Asia/Dhaka",
    "21700,21200,23400,19800,21600,25200d|-15r1q2sBr080dwCbmgywD5lxg0C4qknw0Eu4ijy0Fa1400Een10fjE" ++
    "|<+06>-6"),
  ("Asia/Dili",
    "30140,28800,32400,28800,32400|-u9s3k0Bfqct80Chufs00Dcpz440Cjhkf7jC|<+09>-9"),
  ("Asia/Dubai",
    "13272,14400|-q3gnkoB1pm0ok7B|<+04>-4"),
  ("Asia/Dushanbe",
    "16512,18000,25200d,21600,21600,25200d,21600d,18000|-nu18qoB379yuoDqi27w0C9et80D9d440C9et80D9" ++
    "d440C9et80D9eys0C9d6w0E9d1c0F9d1c0E9d1c0F9d1c0E9d1c0F9d1c0E9d1c0F9d1c0E9d1c0F9d1c0E9d1c0F9q0" ++
    "00E9d1c0G8c2s0Ho73qnjH|<+05>-5"),
  ("Asia/Famagusta",
    "8148,10800d,7200,7200,10800d,10800,7200|-p4bqacCrvhy2cB9cyk0Cb42s0B7nuk0C8yas0B8zzw0C9q2s0B9" ++
    "et80C9b9g0B9cyk0C9q2s0B8zzw0C9d440B9cyk0C9d440B9cyk0C9d440B9cyk0C9d440B9px80C9d440B9cyk0C9d4" ++
    "40B9cyk0C9d440B9cyk0C9d440B9cyk0C9d440B9cyk0C9d440B9px80C9d440B9cyk0C9d440B9cyk0C9d440B9cyk0" ++
    "C9d440B9cyk0C9d440B9cyk0C9q2s0B9cyk0C9d440B9cyk0C9d440Bat4c0D7x6o0Eb5uo0D7k800Eb5uo0D7k800Eb" ++
    "5uo0D7x6o0Easw00D7x6o0Easw00D7x6o0Eb5uo0D7k800Eb5uo0D7k800Eb5uo0D7k800Eb5uo0D7x6o0Easw00D7x6" ++
    "o0Easw00D7x6o0Eb5uo0D7k800Eb5uo0D7k800Eb5uo0D7x6o0Easw00D7x6o0Easw00D7x6o0Easw00D7x6o0E8h8w0" ++
    "Fleog0D7k800Eb5uo0D7x6o0Easw00D7x6o0Easw00D7x6o0Eb5uo0D7k800Eb5uo0D7k800Eb5uo0D7x6o0Easw00D7" ++
    "x6o0Easw00D7x6o0Easw00D7x6o0Eb5uo0D7k800Eb5uo0D7k800Eb5uo0D7x6o0Easw00D7x6o0Easw00D7x6o0Eb5u" ++
    "o0D7k800Eb5uo0D7k800Eb5uo0D7k800Eb5uo0D7x6o0Easw00D7x6o0Easw00D|EET-2EEST,M3.5.0/3,M10.5.0/4"),
  ("Asia/Gaza",
    "8272,10800d,7200,7200,10800d,10800d,7200,10800d,7200,7200|-1054x1sDkp9t1sB69xc0C2f1c0B10q800" ++
    "C7rmo0Bb0ao0C7thc0Bb0ao0C8jeo0Ba8io0C8jeo0Ba8io0C5hoig0E7el80Dawo40E7v980Dawqw0E7tk40Db07w0E" ++
    "7tk40Dayd80E7tk40Dayd80E7tk40Dayd80E7tk40Db07w0E7tk40Dayd80E7tk40Dayd80E7ves0Dawik0E1sns0G3p" ++
    "6is0F51ek0G9q2s0F6u7w0G2kjk40H25s00I1weyo0H5reo0Ibvs00F776k0Gdbpg0F5rbw0Gbbhg0F7rjw0Gasys0F7" ++
    "k580Gc8tg0F6h980Gag040F7x3w0Gasys0F8a2k0Gasys0F8a2k0Gap9g0F80t80Gap9g0F7nuk0Gb2840F80t80G66a" ++
    "s0D4vxc0E8n400Ja2yo0E8n400Ja2yo0E8n400Jasw00E9cyk0D9q2s0E9cyk0D9d440E9cyk0D9d440E9cyk0D9d440" ++
    "E9cyk0D9d440E8n400Da2yo0E8ulg0D97ek0E8y580D9ts40E8hms0Da4qk0E7x3w0Dasys0E8a5c0Dahs1oE71micDb" ++
    "zk5oE69uicDcg840E902o0D9q000E9cyk0D9d440East80D7z440Ear1c0D7z440Eb5rw0D7kas0Eb5rw0D7kas0Eb5r" ++
    "w0D7vc00Eaunw0D7x9g0Easw00D7x6o0Eb4000D7nxc0Eb42s0D9d440E9cyk0D905g0E9px80D8n6s0Ea2vw0D7x9g0" ++
    "East80D7x9g0Eb5rw0D7kas0Eb5rw0D7kas0Eb5rw0D7x9g0East80D7x9g0East80D7x9g0Eb5rw0D7kas0Eb5rw0D7" ++
    "kas0Eb5rw0D7kas0Eb5rw0D7x9g0Eafuk0D8a840Ea2vw0D8n6s0E9cyk0D9d440E8zzw0D9q2s0E8a2k0D2itg0Ecvw" ++
    "0D7x9g0E7k580D25us0E12t80D7x9g0E776k0D25us0E1frw0D7x9g0E6h980D2itg0E1sqk0D7x9g0E64ak0D25us0E" ++
    "2vmk0D7kas0E5rbw0D25us0E38l80D7kas0E51ek0D2itg0E3ljw0D7x9g0E4bh80D25us0E4bh80D7x9g0E3ljw0D2i" ++
    "tg0E4ofw0D7x9g0E38l80D25us0E5rbw0D7kas0E2vmk0D25us0E64ak0D7kas0E25p80D2itg0E6h980D7x9g0E1frw" ++
    "0D25us0E776k0D7x9g0Epuk0D2itg0E7k580D7x9g0Ecvw0D2itg0E7x3w0Da31g0E8zzw0D9d440E9cyk0D8n6s0Ea2" ++
    "vw0D8a840Eafuk0D7x9g0East80D7x9g0Eb5rw0D7kas0Eb5rw0D7kas0Eb5rw0D7kas0Eb5rw0D7x9g0East80D7x9g" ++
    "0East80D7x9g0Eb5rw0D7kas0Eb5rw0D7kas0East80D8a840Ea2vw0D8n6s0E9px80D905g0E8zzw0D9q2s0E8n180D" ++
    "25us0Ecvw0D7kas0E8a2k0D25us0Epuk0D7kas0E7k580D2itg0E12t80D7x9g0E6u7w0D25us0E1sqk0D7x9g0E64ak" ++
    "0D2itg0E25p80D7x9g0E5rbw0D2itg0E2vmk0D7kas0E5ed80D25us0E3ljw0D7kas0E4ofw0D2itg0E3yik0D7x9g0E" ++
    "3yik0D25us0E4ofw0D7x9g0E3ljw0D25us0E51ek0D7x9g0E2vmk0D2itg0E5ed80D7x9g0E2inw0D25us0E6h980D7k" ++
    "as0E1sqk0D2itg0E6u7w0D7kas0E1frw0D2itg0E776k0D7x9g0Epuk0D25us0E7x3w0D|EET-2EEST,M3.4.4/50,M1" ++
    "0.4.4/50"),
  ("Asia/Hebron",
    "8423,10800d,7200,7200,10800d,10800d,7200,10800d,7200,7200|-1054x5zDkp9t5zB69xc0C2f1c0B10q800" ++
    "C7rmo0Bb0ao0C7thc0Bb0ao0C8jeo0Ba8io0C8jeo0Ba8io0C5hoig0E7el80Dawo40E7v980Dawqw0E7tk40Db07w0E" ++
    "7tk40Dayd80E7tk40Dayd80E7tk40Dayd80E7tk40Db07w0E7tk40Dayd80E7tk40Dayd80E7ves0Dawik0E1sns0G3p" ++
    "6is0F51ek0G9q2s0F6u7w0G2kjk40H25s00I1weyo0H5reo0Ibvs00F776k0Gdbpg0F5rbw0Gbbhg0F7rjw0Gasys0F7" ++
    "k580Gc8tg0F6h980Gag040F7x3w0Gasys0F8a2k0Gasys0F8a2k0Gap9g0F80t80Gap9g0F7nuk0Gb2840F80t80G66a" ++
    "s0D4vxc0E8n400Ja2yo0E8n400Ja2yo0E8n400Jasw00E9cyk0D9q2s0E9cyk0D9d440E9cyk0D9d440E9cyk0D9d440" ++
    "E9cyk0D9d440E8n400Da2yo0E8ulg0D97ek0E8y580D9ts40E8hms0Da4qk0E82nw0Danes0E8a5c0Dafxc0E73h80Db" ++
    "zk5oE69uicD1hs40E1lbw0D9d440E902o0D9q000E9cyk0D9d440East80D7z440Ear1c0D7z440Eb5rw0D7kas0Eb5r" ++
    "w0D7kas0Eb5rw0D7vc00Eaunw0D7x9g0Easw00D7x6o0Eb4000D7nxc0Eb42s0D9d440E9cyk0D905g0E9px80D8n6s0" ++
    "Ea2vw0D7x9g0East80D7x9g0Eb5rw0D7kas0Eb5rw0D7kas0Eb5rw0D7x9g0East80D7x9g0East80D7x9g0Eb5rw0D7" ++
    "kas0Eb5rw0D7kas0Eb5rw0D7kas0Eb5rw0D7x9g0Eafuk0D8a840Ea2vw0D8n6s0E9cyk0D9d440E8zzw0D9q2s0E8a2" ++
    "k0D2itg0Ecvw0D7x9g0E7k580D25us0E12t80D7x9g0E776k0D25us0E1frw0D7x9g0E6h980D2itg0E1sqk0D7x9g0E" ++
    "64ak0D25us0E2vmk0D7kas0E5rbw0D25us0E38l80D7kas0E51ek0D2itg0E3ljw0D7x9g0E4bh80D25us0E4bh80D7x" ++
    "9g0E3ljw0D2itg0E4ofw0D7x9g0E38l80D25us0E5rbw0D7kas0E2vmk0D25us0E64ak0D7kas0E25p80D2itg0E6h98" ++
    "0D7x9g0E1frw0D25us0E776k0D7x9g0Epuk0D2itg0E7k580D7x9g0Ecvw0D2itg0E7x3w0Da31g0E8zzw0D9d440E9c" ++
    "yk0D8n6s0Ea2vw0D8a840Eafuk0D7x9g0East80D7x9g0Eb5rw0D7kas0Eb5rw0D7kas0Eb5rw0D7kas0Eb5rw0D7x9g" ++
    "0East80D7x9g0East80D7x9g0Eb5rw0D7kas0Eb5rw0D7kas0East80D8a840Ea2vw0D8n6s0E9px80D905g0E8zzw0D" ++
    "9q2s0E8n180D25us0Ecvw0D7kas0E8a2k0D25us0Epuk0D7kas0E7k580D2itg0E12t80D7x9g0E6u7w0D25us0E1sqk" ++
    "0D7x9g0E64ak0D2itg0E25p80D7x9g0E5rbw0D2itg0E2vmk0D7kas0E5ed80D25us0E3ljw0D7kas0E4ofw0D2itg0E" ++
    "3yik0D7x9g0E3yik0D25us0E4ofw0D7x9g0E3ljw0D25us0E51ek0D7x9g0E2vmk0D2itg0E5ed80D7x9g0E2inw0D25" ++
    "us0E6h980D7kas0E1sqk0D2itg0E6u7w0D7kas0E1frw0D2itg0E776k0D7x9g0Epuk0D25us0E7x3w0D|EET-2EEST," ++
    "M3.4.4/50,M10.4.4/50"),
  ("Asia/Ho_Chi_Minh",
    "25590,25590,25200,28800,32400,25200|-x5692uB2isio0Cgj25iuD15ct80E8so00Ctmtk0D4azmo0C2cm7w0D8" ++
    "285c0Cwo9b7jC|<+07>-7"),
  ("Asia/Hong_Kong",
    "27402,28800,32400d,30600d,32400,28800,32400d,28800|-y0i0s0Bj44dk0C5k000D4d4y0E2195i0H7x3w0Cb" ++
    "j320F6uao0Gbvs00F7x6o0G9d1c0F7x6o0Casw00F7x6o0Casw00F7x6o0Casw00F8a5c0Casw00F7x6o0Cast80H77c" ++
    "40Cbiqk0H77c40Cbvp80H6udg0Cbvp80H77c40Cbiqk0H77c40Cbiqk0H77c40Cbiqk0H77c40Cbvp80H6udg0Cbvp80" ++
    "H6udg0Cbvp80H77c40Cbiqk0H77c40Cbiqk0H8n6s0C9cyk0H9d440C9cyk0H9d440C9px80H9d440C9cyk0H9d440C9" ++
    "cyk0H9d440C9cyk0H9d440C9cyk0H9d440C9px80H9d440C9cyk0H3lpg0Cf4d80H9d440C9cyk0H9d440C9cyk0H1c9" ++
    "440C8a2k0H|HKT-8"),
  ("Asia/Hovd",
    "21996,21600,28800d,25200|-xmcoz0B11sncb0D2qk2k0C9et80D9eys0C9cyk0D9d440C9cyk0D9d440C9cyk0D9d" ++
    "440C9cyk0D9d440C9cyk0D9d440C9cyk0D9d440C9px80D9d440C9cyk0D9d440C9cyk0D9d440C9cyk0D9d440C9cyk" ++
    "0D9d440C9cyk0D9q2s0C9cyk0D9d440C9cyk0D9d440C9cyk0D1ckdo0C7x3w0D9d440C9cyk0D9d440C9cyk0D9d440" ++
    "C9cyk0D9d440C9cyk0D9d440C9px80D4fio40C9ct00D9d9o0C9ct00Db4l8jjD|<+07>-7"),
  ("Asia/Irkutsk",
    "25025,25025,25200,32400d,28800,28800,32400d,28800d,25200,32400,32400d,28800|-1ayylz5Bkwq5c0C" ++
    "5fh175Eqi27w0D9et80E9d440D9et80E9d440D9et80E9eys0D9d6w0F9d1c0G9d1c0F9d1c0G9d1c0F9d1c0G9d1c0F" ++
    "9d1c0G9d1c0F9d1c0G9d1c0F9d1c0G9q000F9d1c0H9d440I5reo0F3ljw0G9d1c0F9d1c0G9d1c0F9d1c0G9d1c0F9d" ++
    "1c0G9d1c0F9q000Gasw00F7x6o0Gasw00F7x6o0Gasw00F7x6o0Gb5uo0F7k800Gb5uo0F7k800Gb5uo0F7x6o0Gasw0" ++
    "0F7x6o0Gasw00F7x6o0Gb5uo0F7k800Gb5uo0F7k800Gb5uo0F7k800Gb5uo0F7x6o0Gasw00F7x6o0Gasw00F7x6o0G" ++
    "b5uo0F7k800J1vbzw0Fc4jlrjF|<+08>-8"),
  ("Asia/Jakarta",
    "25632,25632,26400,27000,32400,28800,25200|-1hftyg0BtfikqoC4lzxc0D4wdzjcE1tu960D1cx860F11jta0" ++
    "D74uc20G|WIB-7"),
  ("Asia/Jayapura",
    "33768,32400,34200,32400|-jebm20B66bqe0Ca37vy0D|WIT-9"),
  ("Asia/Jerusalem",
    "8454,8440,10800d,7200,14400d,10800d,7200,10800d,7200|-1ayy96uBjtxuoeGbp5aigC69xc0D2f1c0C10q8" ++
    "00D7rmo0Cb0ao0D7thc0Cb0ao0D8jeo0Ca8io0D8jeo0Ca8io0Dt9pc0E571c0C34yo0D9b6o0C9gqo0D8jeo0C7thc0" ++
    "Da6o00Cbitc0D8a5c0C9d1c0D902o0C7x6o0De1k00C4oio0De1k00C4oio0Ddolc0C64dc0Dasw00C7k800D8rfeg0F" ++
    "51ek0G9q2s0F6u7w0G2kjk40H25s00I1weyo0H5reo0Ibvs00F776k0Gdbpg0F5rbw0Gbbhg0F7rjw0Gasys0F7k580G" ++
    "c8tg0F6h980Gag040F7x3w0Gasys0F8a2k0Gasys0F8a2k0Gap9g0F80t80Gap9g0F7nuk0Gb2840F80t80G9zc40F9i" ++
    "ik0G9kis0F93p80G9mdg0F8qqk0Gapf00F7x3w0Gbiw40F8zx40G9io40F8n180G9kis0F9vh80G8ulg0F9px80G9mdg" ++
    "0F8n180G9tuw0F9tmk0G8wg40F9gnw0G99es0F8qqk0G9zc40F9tmk0G8wg40F9gnw0G99es0F8qqk0Gacas0F9gnw0G" ++
    "99es0F93p80G9mdg0Fawik0G7tk40Fawik0G7tk40Fawik0G7tk40Fb9h80G7glg0Fb9h80G7glg0Fb9h80G7tk40Faw" ++
    "ik0G7tk40Fawik0G7tk40Fb9h80G7glg0Fb9h80G7glg0Fb9h80G7tk40Fawik0G7tk40Fawik0G7tk40Fawik0G7tk4" ++
    "0Fb9h80G7glg0Fb9h80G7glg0Fb9h80G7tk40Fawik0G7tk40Fawik0G7tk40Fb9h80G7glg0Fb9h80G7glg0Fb9h80G" ++
    "7glg0Fb9h80G7tk40Fawik0G7tk40Fawik0G|IST-2IDT,M3.4.4/26,M10.5.0"),
  ("Asia/Kabul",
    "16608,14400,16200|-15r1m5cBspc1pcC1ck9lfjC|<+0430>-4:30"),
  ("Asia/Kamchatka",
    "38076,39600,46800d,43200,43200,46800d,43200d,39600,43200|-olrupoB3z045oDqi27w0C9et80D9d440C9" ++
    "et80D9d440C9et80D9eys0C9d6w0E9d1c0F9d1c0E9d1c0F9d1c0E9d1c0F9d1c0E9d1c0F9d1c0E9d1c0F9d1c0E9d1" ++
    "c0F9q000E9d1c0G9d440H5reo0E3ljw0F9d1c0E9d1c0F9d1c0E9d1c0F9d1c0E9d1c0F9d1c0E9q000Fasw00E7x6o0" ++
    "Fasw00E7x6o0Fasw00E7x6o0Fb5uo0E7k800Fb5uo0E7k800Fb5uo0E7x6o0Fasw00E7x6o0Fasw00E7x6o0Fb5uo0E7" ++
    "k800Fb5uo0E7k800Fb5uo0E7k800Fb5uo0E7x6o0Fasw00E7x6o0Fasw00E7x6o0Gb5xg0H7k800EdzvtzjE|<+12>-1" ++
    "2"),
  ("Asia/Karachi",
    "16092,19800,23400d,18000,21600d,18000|-wvpb30Bim3zt0C1mn180B33xpg0Da63o20Fg72qo0E9cyk0F2y85g" ++
    "0E7v980F8hms0Eaaak0F|PKT-5"),
  ("Asia/Kathmandu",
    "20476,19800,20700|-q3gt4sByg2lusCr5y89jC|<+0545>-5:45"),
  ("Asia/Khandyga",
    "32533,28800,36000d,32400,32400,36000d,32400d,28800,39600d,36000,36000,39600,32400|-q4cjrpB5h" ++
    "l1jpDqi27w0C9et80D9d440C9et80D9d440C9et80D9eys0C9d6w0E9d1c0F9d1c0E9d1c0F9d1c0E9d1c0F9d1c0E9d" ++
    "1c0F9d1c0E9d1c0F9d1c0E9d1c0F9q000E9d1c0G9d440H5reo0E3ljw0F9d1c0E9d1c0F9d1c0E9d1c0F9d1c0E9d1c" ++
    "0F9d1c0E9q000Fasw00E7x6o0Fasw00E7x6o0Fasw00E7x6o0Fb5uo0E7k800Fb5uo0E7k800Fb5uo0E7x6o0Fasw00E" ++
    "7x6o0Fasw00E3fx40K4h6s0Ib5uo0J7k800Ib5uo0J7k800Ib5uo0J7k800Ib5uo0J7x6o0Iasw00J7x6o0Iasw00J7x" ++
    "6o0Ib5uo0J7k800L8ql00J1mlho0Ec4jojjE|<+09>-9"),
  ("Asia/Kolkata",
    "21208,21200,19270,19800,23400d|-1oaa314B83glc8Cisc6tmDinnm9aEbmfw0D5lxg0E1mn180D|IST-5:30"),
  ("Asia/Krasnoyarsk",
    "22286,21600,28800d,25200,25200,28800d,25200d,21600,28800,28800d,25200|-q37l72B5gg8j2Dqi27w0C" ++
    "9et80D9d440C9et80D9d440C9et80D9eys0C9d6w0E9d1c0F9d1c0E9d1c0F9d1c0E9d1c0F9d1c0E9d1c0F9d1c0E9d" ++
    "1c0F9d1c0E9d1c0F9q000E9d1c0G9d440H5reo0E3ljw0F9d1c0E9d1c0F9d1c0E9d1c0F9d1c0E9d1c0F9d1c0E9q00" ++
    "0Fasw00E7x6o0Fasw00E7x6o0Fasw00E7x6o0Fb5uo0E7k800Fb5uo0E7k800Fb5uo0E7x6o0Fasw00E7x6o0Fasw00E" ++
    "7x6o0Fb5uo0E7k800Fb5uo0E7k800Fb5uo0E7k800Fb5uo0E7x6o0Fasw00E7x6o0Fasw00E7x6o0Fb5uo0E7k800I1v" ++
    "bzw0Ec4jizjE|<+07>-7"),
  ("Asia/Kuala_Lumpur",
    "24406,24925,25200,26400d,26400,27000,32400,28800|-100ew5yB2ax69lCeeb94dD1kbr2oE2yhc00F8n3jcG" ++
    "1v2p60Fiy3ms0Ht93z7jH|<+08>-8"),
  ("Asia/Kuching",
    "26480,27000,30000d,28800,32400,28800|-mvof3kB3khwxkD1epvy0C4ohqoDe5a9cC4ohqoDe3flcC4ohqoDe3f" ++
    "lcC4ohqoDe3flcC4ohqoDe5a9cC4ohqoDe3flcC4ohqoD3ajlcE1v2qk0D1c77lzjD|<+08>-8"),
  ("Asia/Kuwait",
    "11516,10800|-afs0vwB19yc1vfB|<+03>-3"),
  ("Asia/Macau",
    "27250,28800,36000d,32400,32400d,28800,32400d|-y0i2cyBjdvyoyD6onw0Cac580D8fs40C7v980D11luw0Ba" ++
    "wlc0E7vc00Fac800Ebko00F7x6o0E9d1c0F7vc00Easw00F7x6o0Easw00F7x6o0Eauqo0F88ao0Easw00F7x6o0Easw" ++
    "00F779c0Ebitc0F779c0Ebvs00F6uao0Ebw1q0B77c40Gbiqk0B77c40Gbiqk0B77c40Gbiqk0B77c40Gbvp80B6udg0" ++
    "Gbvp80B6udg0Gbvp80B77c40Gbiqk0B77c40Gbiqk0B8n6s0G9cvs0B9d6w0G9cvs0B9d6w0G9px80B9d440G9cyk0B9" ++
    "d440G9cyk0B9d440G9cyk0B9d440G9cyk0B9d440G9px80B9d440G9cyk0B3lpg0Gf4d80B9d440G9cyk0B9d440G9cy" ++
    "k0B1c9440G8a2k0B|CST-8"),
  ("Asia/Magadan",
    "36192,36000,43200d,39600,39600,43200d,39600d,36000,43200,43200d,39600|-nu1nxcB37a05cDqi27w0C" ++
    "9et80D9d440C9et80D9d440C9et80D9eys0C9d6w0E9d1c0F9d1c0E9d1c0F9d1c0E9d1c0F9d1c0E9d1c0F9d1c0E9d" ++
    "1c0F9d1c0E9d1c0F9q000E9d1c0G9d440H5reo0E3ljw0F9d1c0E9d1c0F9d1c0E9d1c0F9d1c0E9d1c0F9d1c0E9q00" ++
    "0Fasw00E7x6o0Fasw00E7x6o0Fasw00E7x6o0Fb5uo0E7k800Fb5uo0E7k800Fb5uo0E7x6o0Fasw00E7x6o0Fasw00E" ++
    "7x6o0Fb5uo0E7k800Fb5uo0E7k800Fb5uo0E7k800Fb5uo0E7x6o0Fasw00E7x6o0Fasw00E7x6o0Fb5uo0E7k800I1v" ++
    "bzw0Hs39k0EbcgkjjE|<+11>-11"),
  ("Asia/Makassar",
    "28656,28656,28800,32400,28800|-q3gzg0B6p5hc0C4u87w0D1w02k0E|WITA-8"),
  ("Asia/Manila",
    "-57368,29032,32400d,28800,28800,32400,28800|-1t8ix2gBsjc9igEje0pc0C3wnw0D2kc5g0C2zbw0F1leo00" ++
    "Cdzpc0D4d3ms0C2rx80Dbwlpg0C95jw0D6lv1g0C3jp80D|PST-8"),
  ("Asia/Muscat",
    "14064,14400|-q3go6oB1pm0p67B|<+04>-4"),
  ("Asia/Nicosia",
    "8008,10800d,7200,7200,10800d|-p4bq6gCrvhxygB9cyk0Cb42s0B7nuk0C8yas0B8zzw0C9q2s0B9et80C9b9g0B" ++
    "9cyk0C9q2s0B8zzw0C9d440B9cyk0C9d440B9cyk0C9d440B9cyk0C9d440B9px80C9d440B9cyk0C9d440B9cyk0C9d" ++
    "440B9cyk0C9d440B9cyk0C9d440B9cyk0C9d440B9px80C9d440B9cyk0C9d440B9cyk0C9d440B9cyk0C9d440B9cyk" ++
    "0C9d440B9cyk0C9q2s0B9cyk0C9d440B9cyk0C9d440Bat4c0D7x6o0Eb5uo0D7k800Eb5uo0D7k800Eb5uo0D7x6o0E" ++
    "asw00D7x6o0Easw00D7x6o0Eb5uo0D7k800Eb5uo0D7k800Eb5uo0D7k800Eb5uo0D7x6o0Easw00D7x6o0Easw00D7x" ++
    "6o0Eb5uo0D7k800Eb5uo0D7k800Eb5uo0D7x6o0Easw00D7x6o0Easw00D7x6o0Easw00D7x6o0Eb5uo0D7k800Eb5uo" ++
    "0D7k800Eb5uo0D7x6o0Easw00D7x6o0Easw00D7x6o0Eb5uo0D7k800Eb5uo0D7k800Eb5uo0D7x6o0Easw00D7x6o0E" ++
    "asw00D7x6o0Easw00D7x6o0Eb5uo0D7k800Eb5uo0D7k800Eb5uo0D7x6o0Easw00D7x6o0Easw00D7x6o0Eb5uo0D7k" ++
    "800Eb5uo0D7k800Eb5uo0D7k800Eb5uo0D7x6o0Easw00D7x6o0Easw00D|EET-2EEST,M3.5.0/3,M10.5.0/4"),
  ("Asia/Novokuznetsk",
    "20928,21600,28800d,25200,25200,28800d,25200d,21600,25200|-nu36tcB37bu5cDqi27w0C9et80D9d440C9" ++
    "et80D9d440C9et80D9eys0C9d6w0E9d1c0F9d1c0E9d1c0F9d1c0E9d1c0F9d1c0E9d1c0F9d1c0E9d1c0F9d1c0E9d1" ++
    "c0F9q000E9d1c0G9d440H5reo0E3ljw0F9d1c0E9d1c0F9d1c0E9d1c0F9d1c0E9d1c0F9d1c0E9q000Fasw00E7x6o0" ++
    "Fasw00E7x6o0Fasw00E7x6o0Fb5uo0E7k800Fb5uo0E7k800Fb5uo0E7x6o0Fasw00E7x6o0Fasw00E7x6o0Fb5uo0E7" ++
    "k800Fb5uo0E7k800Fb5uo0E7k800Fb5uo0E7x6o0Fasw00E7x6o0Fasw00E7x6o0Gb5xg0H7k800Edzvg3jE|<+07>-7"),
  ("Asia/Novosibirsk",
    "19900,21600,28800d,25200,25200,28800d,25200d,21600,25200d,25200|-q4do0sB5hmbcsDqi27w0C9et80D" ++
    "9d440C9et80D9d440C9et80D9eys0C9d6w0E9d1c0F9d1c0E9d1c0F9d1c0E9d1c0F9d1c0E9d1c0F9d1c0E9d1c0F9d" ++
    "1c0E9d1c0F9q000E9d1c0G9d440H5reo0E3ljw0F9d1c0E9d1c0F2vh00I6hn40H9d1c0G9d1c0H9d1c0G9d1c0H9q00" ++
    "0Gasw00H7x6o0Gasw00H7x6o0Gasw00H7x6o0Gb5uo0H7k800Gb5uo0H7k800Gb5uo0H7x6o0Gasw00H7x6o0Gasw00H" ++
    "7x6o0Gb5uo0H7k800Gb5uo0H7k800Gb5uo0H7k800Gb5uo0H7x6o0Gasw00H7x6o0Gasw00H7x6o0Gb5uo0H7k800E1v" ++
    "bzw0Hwrpg0Eb7rqrjE|<+07>-7"),
  ("Asia/Omsk",
    "17610,18000,25200d,21600,21600,25200d,21600d,18000,25200,25200d,21600|-q5xmx6B5j6d16Dqi27w0C" ++
    "9et80D9d440C9et80D9d440C9et80D9eys0C9d6w0E9d1c0F9d1c0E9d1c0F9d1c0E9d1c0F9d1c0E9d1c0F9d1c0E9d" ++
    "1c0F9d1c0E9d1c0F9q000E9d1c0G9d440H5reo0E3ljw0F9d1c0E9d1c0F9d1c0E9d1c0F9d1c0E9d1c0F9d1c0E9q00" ++
    "0Fasw00E7x6o0Fasw00E7x6o0Fasw00E7x6o0Fb5uo0E7k800Fb5uo0E7k800Fb5uo0E7x6o0Fasw00E7x6o0Fasw00E" ++
    "7x6o0Fb5uo0E7k800Fb5uo0E7k800Fb5uo0E7k800Fb5uo0E7x6o0Fasw00E7x6o0Fasw00E7x6o0Fb5uo0E7k800I1v" ++
    "bzw0Ec4jg7jE|<+06>-6"),
  ("Asia/Oral",
    "12324,10800,18000,21600d,21600,18000,21600d,18000d,14400,18000|-nu15icB37a16cCqi2540D9et80E9" ++
    "d1c0D9ew00C9d440D9et80C9eys0D9d6w0F9d1c0G9d1c0F9d1c0G9d1c0F9d1c0G9d1c0F9d1c0G9d1c0F9d1c0H9d4" ++
    "40I9d1c0H9q000I9d1c0H9d1c0I5reo0F3ljw0H9d440I9d1c0H9d1c0I9d1c0H9d1c0I9d1c0H9d1c0I9q000Hasw00" ++
    "I7x6o0Hasw00I7x6o0Hasw00I7x6o0Hb5uo0I7k800Hb5uo0I7k800Hb5uo0I7x6o0Hasw00I7x6o0Hasw00I7x6o0Hb" ++
    "5uo0Fhc4x7jF|<+05>-5"),
  ("Asia/Phnom_Penh",
    "25180,25590,25200,28800,32400,25200|-x568rgB2isicmCgj25iuD15ct80E8so00C1c7q4njC|<+07>-7"),
  ("Asia/Pontianak",
    "26240,26240,27000,32400,28800,28800,25200|-w6piwwBcse2o0C4tnu2wD1wkei0C1cx860E11jta0C74uc20F" ++
    "cixam0G|WIB-7"),
  ("Asia/Pyongyang",
    "30180,30600,32400,32400|-w895ycB1yh10cChk5da0D10ipmo0B1f4qo0D|KST-9"),
  ("Asia/Qatar",
    "12368,14400,10800|-q3gmvkBrctnrkCy9703jC|<+03>-3"),
  ("Asia/Qostanay",
    "15268,14400,18000,21600d,21600,18000,21600d,18000d,14400,21600,21600d,18000|-nu17s4B37a0o4Cq" ++
    "i27w0D9et80E9d1c0D9ew00C9d440D9et80C9eys0D9d6w0F9d1c0G9d1c0F9d1c0G9d1c0F9d1c0G9d1c0F9d1c0G9d" ++
    "1c0F9d1c0G9d1c0F9d1c0G9q000F9d1c0H9d440I5reo0F3ljw0G9d1c0F9d1c0G9d1c0F9d1c0G9d1c0F9d1c0G9d1c" ++
    "0F9q000Gasw00F7x6o0Gasw00F7x6o0Gasw00F7x6o0Gb5uo0F7k800Gb5uo0F7k800Gb5uo0F7x6o0Gasw00F7x6o0G" ++
    "asw00F7x6o0Gb5uo0Ja37p00C78xazjC|<+05>-5"),
  ("Asia/Qyzylorda",
    "15712,14400,18000,21600d,21600,18000,21600d,18000d,21600,21600d,18000|-nu184gB37a10gCqi27w0D" ++
    "9et80E9d1c0D9ew00C9d440D9et80C9eys0D9d6w0F9d1c0G9d1c0F9d1c0G9d1c0F9d1c0G9d1c0F9d1c0G9d1c0F9d" ++
    "1c0G9d1c0F9d1c0G9q000F9d1c0H9d440F5rbw0I3ljw0G9d440F9d1c0G9d1c0F9d1c0G9d1c0F9d1c0G9d1c0F9q00" ++
    "0Gasw00F7x6o0Gasw00F7x6o0Gasw00F7x6o0Gb5uo0F7k800Gb5uo0F7k800Gb5uo0F7x6o0Gasw00F7x6o0Gasw00F" ++
    "7x6o0Gb5uo0I7dmqc0C9yi9njC|<+05>-5"),
  ("Asia/Riyadh",
    "11212,10800|-bwgbbgB1bf0cazB|<+03>-3"),
  ("Asia/Sakhalin",
    "34248,32400,43200d,39600,39600,43200d,39600d,36000,39600|-xl87rcBkvnarcDikvh40C9et80D9d440C9" ++
    "et80D9d440C9et80D9eys0C9d6w0E9d1c0F9d1c0E9d1c0F9d1c0E9d1c0F9d1c0E9d1c0F9d1c0E9d1c0F9d1c0E9d1" ++
    "c0F9q000E9d1c0G9d440H5reo0E3ljw0F9d1c0E9d1c0F9d1c0E9d1c0F9d1c0E9d1c0F9d1c0E9q000Fasw00E7x6o0" ++
    "Gasys0H7x6o0Gasw00H7x6o0Gb5uo0H7k800Gb5uo0H7k800Gb5uo0H7x6o0Gasw00H7x6o0Gasw00H7x6o0Gb5uo0H7" ++
    "k800Gb5uo0H7k800Gb5uo0H7k800Gb5uo0H7x6o0Gasw00H7x6o0Gasw00H7x6o0Gb5uo0H7k800E1vbzw0Hqnc40Ebd" ++
    "wf7jE|<+11>-11"),
  ("Asia/Samarkand",
    "16073,14400,18000,21600d,21600,18000,21600d|-nu18ehB37a1ahCqi27w0D9et80E9d1c0D9ew00C9d440D9e" ++
    "t80C9eys0D9d6w0F9d1c0G9d1c0F9d1c0G9d1c0F9d1c0G9d1c0F9d1c0G9d1c0F9d1c0G9d1c0F9d1c0G9q000F9d1c" ++
    "0G9d1c0Fo62pbjF|<+05>-5"),
  ("Asia/Seoul",
    "30472,30600,32400,36000d,32400,34200d,36000d|-w8966gB1yh18gChkx5a0E1faao0D5cik0Eae5g0D8a2k0E" ++
    "ae5g0D8bx80Ec8tg0D6h980E1bj6s0Bl3aq0F6j3w0Bd2g40F6u7w0Bb5xg0F776k0Bbiw40F776k0Bbiw40F776k0Bb" ++
    "iw40F776k0Bgrs40Edfqxi0D7x6o0Easw00D7x6o0E|KST-9"),
  ("Asia/Shanghai",
    "29143,32400d,28800|-100eztjC9jeyxjB8sl80Casbpg0B6w2k0C7ves0Bbxjw0C4mqs0B1vduk0Cd4as0B75bw0Ca" ++
    "31g0Baaak0C9d440B7v980Cawo40B1dx80Cj9xpo0B6u7w0Casys0B7x3w0Cb5xg0B7k580Cb5xg0B7x3w0Casys0B7x" ++
    "3w0Casys0B7x3w0C|CST-8"),
  ("Asia/Singapore",
    "24925,24925,25200,26400d,26400,27000,32400,28800|-100ewkdB2ax6o0Ceeb94dD1kbr2oE2yhc00F8n3jcG" ++
    "1v2p60Fiy3ms0Ht93z7jH|<+08>-8"),
  ("Asia/Srednekolymsk",
    "36892,36000,43200d,39600,39600,43200d,39600d,36000,43200,43200d,39600|-nu1ogsB37a0osDqi27w0C" ++
    "9et80D9d440C9et80D9d440C9et80D9eys0C9d6w0E9d1c0F9d1c0E9d1c0F9d1c0E9d1c0F9d1c0E9d1c0F9d1c0E9d" ++
    "1c0F9d1c0E9d1c0F9q000E9d1c0G9d440H5reo0E3ljw0F9d1c0E9d1c0F9d1c0E9d1c0F9d1c0E9d1c0F9d1c0E9q00" ++
    "0Fasw00E7x6o0Fasw00E7x6o0Fasw00E7x6o0Fb5uo0E7k800Fb5uo0E7k800Fb5uo0E7x6o0Fasw00E7x6o0Fasw00E" ++
    "7x6o0Fb5uo0E7k800Fb5uo0E7k800Fb5uo0E7k800Fb5uo0E7x6o0Fasw00E7x6o0Fasw00E7x6o0Fb5uo0E7k800I1v" ++
    "bzw0Ec4ju3jE|<+11>-11"),
  ("Asia/Taipei",
    "29160,28800,32400,32400d,28800|-12mch60Blsd1m0C45slc0Bc51c0D75bw0Ba31g0Daaak0B9d440D7v980Baw" ++
    "o40D7v980Bawo40D7v980Bawo40D7v980B7tk40Dclmk0B7rpg0Db07w0B7rpg0Db07w0B7rpg0D9et80B9eys0D9et8" ++
    "0B9d440D9et80B9d440D9et80B9d440D9et80Bcjxg0D69uk0Bci2s0D69uk0B6its40D9et80B9d440D9et80B1yf9g" ++
    "0D4qak0B|CST-8"),
  ("Asia/Tashkent",
    "16631,18000,25200d,21600,21600,25200d,21600d,18000|-nu18tzB379yxzDqi27w0C9et80D9d440C9et80D9" ++
    "d440C9et80D9eys0C9d6w0E9d1c0F9d1c0E9d1c0F9d1c0E9d1c0F9d1c0E9d1c0F9d1c0E9d1c0F9d1c0E9d1c0F9q0" ++
    "00E9d1c0G9d440Ho62pbjH|<+05>-5"),
  ("Asia/Tbilisi",
    "10751,10751,10800,18000d,14400,14400,18000d,14400d,10800,14400d,14400|-1ayyaynBn4x6o0Ch4tjyn" ++
    "Eckinw0D9et80E9d440D9et80E9d440D9et80E9eys0D9d6w0F9d1c0G9d1c0F9d1c0G9d1c0F9d1c0G9d1c0F9d1c0G" ++
    "9d1c0F9d1c0G9d1c0F9d1c0G9q000F9d1c0H9d440I9cvs0J9cyk0C9d440J9cyk0C9d440J9cyk0E9d1c0D9cyk0E9q" ++
    "2s0Dipzw0Dasw00E7x9g0Dast80E7x9g0Db5rw0E7kas0Db5rw0E7kas0Db5rw0E7x9g0Dast80E7x9g0Dast80E7x9g" ++
    "0D4ofw0J6hn40I7k800Eh4kmfjE|<+04>-4"),
  ("Asia/Tehran",
    "12344,12344,16200d,12600,18000d,14400,16200d,12600|-s6m6uwBa5dpc0Dlsvh0wCayg00F7z2q0E6uao0F5" ++
    "1hc0Da4uq0C5wvw0D9gtg0C9kd80D5ja5g0C7avw0D9d440C9gnw0D9b9g0C9gnw0D9b9g0C9gnw0D9b9g0C9gnw0D9b" ++
    "9g0C9gnw0D9d440C9gnw0D9b9g0C9gnw0D9b9g0C9gnw0D9b9g0C9gnw0D9d440C9gnw0D9b9g0C9gnw0D9b9g0C9gnw" ++
    "0D9b9g0C9gnw0D9d440C9gnw0D1av440C9gnw0D9d440C9gnw0D9b9g0C9gnw0D9b9g0C9gnw0D9b9g0C9gnw0D9d440" ++
    "C9gnw0D9b9g0C9gnw0D9b9g0C9gnw0D9b9g0C9gnw0D9d440C9gnw0D9b9g0C9gnw0D9b9g0C9gnw0D9b9g0C9gnw0D9" ++
    "d440C9gnw0D9b9g0C9gnw0D7zz9hjD|<+0330>-3:30"),
  ("Asia/Thimphu",
    "21516,19800,21600|-bojcloBkxymnoCq94qxjC|<+06>-6"),
  ("Asia/Tokyo",
    "33539,36000d,32400,32400|-16snno0Dvhjeo0B6uao0Cafxc0B8a5c0Cc8qo0B6hc00Cc8qo0B6hc00C|JST-9"),
  ("Asia/Tomsk",
    "20391,21600,28800d,25200,25200,28800d,25200d,21600,25200d,25200|-q3zbqfB5h7z2fDqi27w0C9et80D" ++
    "9d440C9et80D9d440C9et80D9eys0C9d6w0E9d1c0F9d1c0E9d1c0F9d1c0E9d1c0F9d1c0E9d1c0F9d1c0E9d1c0F9d" ++
    "1c0E9d1c0F9q000E9d1c0G9d440H5reo0E3ljw0F9d1c0E9d1c0F9d1c0E9d1c0F9d1c0E9d1c0F9d1c0E9q000Fasw0" ++
    "0E7x6o0Fasw00E7x6o0Fasw00E7x6o0Fb5uo0E7k800Fb5uo0E7k800Fb5uo0E7x6o0F1leo0I97k40H7x6o0Gasw00H" ++
    "7x6o0Gb5uo0H7k800Gb5uo0H7k800Gb5uo0H7k800Gb5uo0H7x6o0Gasw00H7x6o0Gasw00H7x6o0Gb5uo0H7k800E1v" ++
    "bzw0Htw040Ebang3jE|<+07>-7"),
  ("Asia/Ulaanbaatar",
    "25652,25200,32400d,28800|-xmcrskB11sncckD2qk2k0C9et80D9eys0C9cyk0D9d440C9cyk0D9d440C9cyk0D9d" ++
    "440C9cyk0D9d440C9cyk0D9d440C9cyk0D9d440C9px80D9d440C9cyk0D9d440C9cyk0D9d440C9cyk0D9d440C9cyk" ++
    "0D9d440C9cyk0D9q2s0C9cyk0D9d440C9cyk0D9d440C9cyk0D1ckdo0C7x3w0D9d440C9cyk0D9d440C9cyk0D9d440" ++
    "C9cyk0D9d440C9cyk0D9d440C9px80D4fio40C9ct00D9d9o0C9ct00Db4lbbjD|<+08>-8"),
  ("Asia/Urumqi",
    "21020,21600|-lx5pjwB1lfpqjfB|<+06>-6"),
  ("Asia/Ust-Nera",
    "34374,28800,32400,39600,43200d,39600,43200d,39600d,36000,43200,43200d,36000|-q4cl6uB5hl2yuCq" ++
    "i27w0E9eno0D9d440E9et80D9d440E9et80D9eys0E9d6w0F9d1c0G9d1c0F9d1c0G9d1c0F9d1c0G9d1c0F9d1c0G9d" ++
    "1c0F9d1c0G9d1c0F9d1c0G9q000F9d1c0H9d440I5reo0F3ljw0G9d1c0F9d1c0G9d1c0F9d1c0G9d1c0F9d1c0G9d1c" ++
    "0F9q000Gasw00F7x6o0Gasw00F7x6o0Gasw00F7x6o0Gb5uo0F7k800Gb5uo0F7k800Gb5uo0F7x6o0Gasw00F7x6o0G" ++
    "asw00F7x6o0Gb5uo0F7k800Gb5uo0F7k800Gb5uo0F7k800Gb5uo0F7x6o0Gasw00F7x6o0Gasw00F7x6o0Gb5uo0F7k" ++
    "800J8ql00F1mlho0Ic4jrbjI|<+10>-10"),
  ("Asia/Vientiane",
    "24624,25590,25200,28800,32400,25200|-x568c0B2ishx6Cgj25iuD15ct80E8so00Ctmtk0D470yk0C1772cjjC" ++
    "|<+07>-7"),
  ("Asia/Vladivostok",
    "31651,32400,39600d,36000,36000,39600d,36000d,32400,39600,39600d,36000|-oligf7B3yqvf7Dqi27w0C" ++
    "9et80D9d440C9et80D9d440C9et80D9eys0C9d6w0E9d1c0F9d1c0E9d1c0F9d1c0E9d1c0F9d1c0E9d1c0F9d1c0E9d" ++
    "1c0F9d1c0E9d1c0F9q000E9d1c0G9d440H5reo0E3ljw0F9d1c0E9d1c0F9d1c0E9d1c0F9d1c0E9d1c0F9d1c0E9q00" ++
    "0Fasw00E7x6o0Fasw00E7x6o0Fasw00E7x6o0Fb5uo0E7k800Fb5uo0E7k800Fb5uo0E7x6o0Fasw00E7x6o0Fasw00E" ++
    "7x6o0Fb5uo0E7k800Fb5uo0E7k800Fb5uo0E7k800Fb5uo0E7x6o0Fasw00E7x6o0Fasw00E7x6o0Fb5uo0E7k800I1v" ++
    "bzw0Ec4jrbjE|<+10>-10"),
  ("Asia/Yakutsk",
    "31138,28800,36000d,32400,32400,36000d,32400d,28800,36000,36000d,32400|-q4cioyB5hl0gyDqi27w0C" ++
    "9et80D9d440C9et80D9d440C9et80D9eys0C9d6w0E9d1c0F9d1c0E9d1c0F9d1c0E9d1c0F9d1c0E9d1c0F9d1c0E9d" ++
    "1c0F9d1c0E9d1c0F9q000E9d1c0G9d440H5reo0E3ljw0F9d1c0E9d1c0F9d1c0E9d1c0F9d1c0E9d1c0F9d1c0E9q00" ++
    "0Fasw00E7x6o0Fasw00E7x6o0Fasw00E7x6o0Fb5uo0E7k800Fb5uo0E7k800Fb5uo0E7x6o0Fasw00E7x6o0Fasw00E" ++
    "7x6o0Fb5uo0E7k800Fb5uo0E7k800Fb5uo0E7k800Fb5uo0E7x6o0Fasw00E7x6o0Fasw00E7x6o0Fb5uo0E7k800I1v" ++
    "bzw0Ec4jojjE|<+09>-9"),
  ("Asia/Yangon",
    "23087,23087,23400,32400,23400|-1ayykhbBkvhpc0Cbnjp3bD1kh520C1ce01zjC|<+0630>-6:30"),
  ("Asia/Yekaterinburg",
    "14553,13505,14400,21600d,18000,18000,21600d,18000d,14400,21600,21600d,18000|-rx5hw9B1kybx4C5" ++
    "pfyv5Eqi27w0D9et80E9d440D9et80E9d440D9et80E9eys0D9d6w0F9d1c0G9d1c0F9d1c0G9d1c0F9d1c0G9d1c0F9" ++
    "d1c0G9d1c0F9d1c0G9d1c0F9d1c0G9q000F9d1c0H9d440I5reo0F3ljw0G9d1c0F9d1c0G9d1c0F9d1c0G9d1c0F9d1" ++
    "c0G9d1c0F9q000Gasw00F7x6o0Gasw00F7x6o0Gasw00F7x6o0Gb5uo0F7k800Gb5uo0F7k800Gb5uo0F7x6o0Gasw00" ++
    "F7x6o0Gasw00F7x6o0Gb5uo0F7k800Gb5uo0F7k800Gb5uo0F7k800Gb5uo0F7x6o0Gasw00F7x6o0Gasw00F7x6o0Gb" ++
    "5uo0F7k800J1vbzw0Fc4jdfjF|<+05>-5"),
  ("Asia/Yerevan",
    "10680,10800,18000d,14400,14400,18000d,14400d,10800,18000d,14400|-nu148oBh4tjwoDckinw0C9et80D" ++
    "9d440C9et80D9d440C9et80D9eys0C9d6w0E9d1c0F9d1c0E9d1c0F9d1c0E9d1c0F9d1c0E9d1c0F9d1c0E9d1c0F9d" ++
    "1c0E9d1c0F9q000E9d1c0G9d440H9d1c0G9d1c0H9d1c0G9d1c0H9d1c0G9d1c0H9d1c0G9d1c0Esfzw0Fasw00E7x6o" ++
    "0Fasw00E7x6o0Fb5uo0E7k800Fb5uo0E7k800Fb5uo0E7x6o0Fasw00E7x6o0Fasw00E7x6o0Fb5uo0E7k800Fb5uo0E" ++
    "7k800Fb5uo0E7k800Fb5uo0E7x6o0Fasw00E7x6o0Fasw00E7x6o0Fb5uo0E7k800Fb5uo0EdopfvjE|<+04>-4")]

end MessageTemplate.Zone
