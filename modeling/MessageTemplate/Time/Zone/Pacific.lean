/-! The recorded histories of the zones of Australia, the Pacific and Antarctica. -/
namespace MessageTemplate.Zone

def pacific : List (String × String) := [
  ("Antarctica/Casey",
    "0,28800,39600,28800|-irxc0Blag4o0C73bo0Buz1o0C60l80D2fnh80Cpz9g0Bat4c0C89u80Bacgc0C80no0Basw" ++
    "1oC89wycBag5poC89wycBag5poC84lacB7rcf7jB|<+08>-8"),
  ("Antarctica/Davis",
    "0,25200,18000,25200|-6rmdc0B42jdw0A27wgs0Bl8uss0C7eqs0Dunmk0C60qs0DdismrjD|<+07>-7"),
  ("Antarctica/DumontDUrville",
    "0,36000|-c05eo0B2mks80A2i72g0B16dxkzjB|<+10>-10"),
  ("Antarctica/Macquarie",
    "0,36000,39600d,36000,0,39600d,36000|-10mb9c0B8ts4g0C902o0D11wns0Ef4kh40Ba6p8g0F9d1c0Dasw00F6" ++
    "uao0Dbvs00F6uao0Dbvs00F779c0Dbvs00F64dc0Dclpc0F6hc00Dc8qo0F6hc00Dc8qo0F6hc00Dc8qo0F6uao0Dc8q" ++
    "o0F6hc00Dc8qo0F6hc00Dc8qo0F6hc00Dc8qo0F6hc00Dc8qo0F6hc00Dc8qo0F7x6o0Db5uo0F7k800Db5uo0F6hc00" ++
    "Dc8qo0F6hc00Dc8qo0F6hc00Dbvs00F7k800Dbitc0F7k800Dbitc0F779c0Dbitc0F779c0Dbitc0F7x6o0D9q000F9" ++
    "02o0D9q000F902o0D9q000F902o0D9q000F902o0D9q000F9d1c0D9q000F902o0D9q000F902o0D9q000F902o0D9q0" ++
    "00F902o0D7x6o0Fasw00Da2yo0F902o0D9q000F902o0D9q000F902o0D9q000F902o0D9q000F9d1c0D9d1c0F902o0" ++
    "Da2yo0F9d1c0D9d1c0F9d1c0D9d1c0Fs3400D9d1c0F9d1c0D9q000F9d1c0D9d1c0F9d1c0D9d1c0F9d1c0D9d1c0F9" ++
    "d1c0D9d1c0F9d1c0D9d1c0F9d1c0D9q000F9d1c0D9d1c0F9d1c0D9d1c0F9d1c0D9d1c0F9d1c0D9d1c0F9d1c0D9d1" ++
    "c0F9q000D9d1c0F9d1c0D9d1c0F9d1c0D9d1c0F9d1c0D9d1c0F9d1c0D9d1c0F9d1c0D9q000F9d1c0D9d1c0F9d1c0" ++
    "D9d1c0F9d1c0D9d1c0F9d1c0D9d1c0F9d1c0D9d1c0F9d1c0D9q000F9d1c0D9d1c0F9d1c0D9d1c0F|AEST-10AEDT," ++
    "M10.1.0,M4.1.0/3"),
  ("Antarctica/Mawson",
    "0,21600,18000|-8aelc0Bt22y80Ceqvo3jC|<+05>-5"),
  ("Antarctica/McMurdo",
    "0,46800d,43200,43200|-7b2dc0D9txtk0B5reo0Cclpc0B6uao0Cc8qo0B6hc00Cc8qo0B6hc00Cc8qo0B6hc00Cc8" ++
    "qo0B6hc00Cc8qo0B6hc00Cc8qo0B6uao0Cc8qo0B6hc00Cc8qo0B6hc00Cc8qo0B6hc00Cc8qo0B6hc00Cc8qo0B6hc0" ++
    "0Cc8qo0B6uao0Cc8qo0B6hc00Cb5uo0B8a5c0Cafxc0B8a5c0Cafxc0B8a5c0Cafxc0B8n400Ca2yo0B8n400Ca2yo0B" ++
    "8n400Ca2yo0B8n400Cafxc0B8a5c0Cafxc0B8a5c0Cafxc0B8n400Ca2yo0B8n400Ca2yo0B8n400Cafxc0B8a5c0Caf" ++
    "xc0B8a5c0Cafxc0B8n400Ca2yo0B8n400Ca2yo0B8n400Ca2yo0B8n400Ca2yo0B9q000C902o0B9q000C902o0B9q00" ++
    "0C902o0B9q000C902o0B9q000C9d1c0B9q000C902o0B9q000C902o0B9q000C902o0B9q000C902o0B9q000C902o0B" ++
    "9q000C9d1c0B9q000C902o0B9q000C902o0B9q000C902o0B9q000C902o0B9q000C902o0Ba2yo0C902o0B9q000C90" ++
    "2o0B9q000C902o0B9q000C902o0B9q000C902o0B9q000C9d1c0B9q000C902o0B9q000C902o0B9q000C902o0B9q00" ++
    "0C902o0B9q000C902o0B9q000C9d1c0B9q000C902o0B9q000C902o0B|NZST-12NZDT,M9.5.0,M4.1.0/3"),
  ("Antarctica/Palmer",
    "0,-14400,-10800d,-7200d,-10800,-10800d,-14400,-10800|-2lxhc0C31ho0Bbqas0C71mk0Bbqas0C8ovw0B9" ++
    "d440C9px80B9d440C9cyk0B9d440E28t6k0D51ek0E46b6s0B8c2s0F7x3w0Gasys0F7x3w0Gb5xg0F7k580Gb5xg0F7" ++
    "k580Gb5xg0F9cyk0G9d440F7x3w0Gasys0F7x3w0Gb5xg0F7k580G9q2s0F8zzw0Gb5xg0F7x3w0Gasys0F7x3w0Gasy" ++
    "s0F7x3w0Gasys0F7x3w0Gb5xg0F7k580Gb5xg0F8n180Ga31g0F7x3w0Ga31g0F9px80G9q2s0F7x3w0Gb5xg0F7k580" ++
    "Gb5xg0F7k580Gb5xg0F7k580Gb5xg0F7x3w0Gasys0F7x3w0Gasys0F7x3w0Gb5xg0F7k580Gb5xg0F8n180Ga31g0F7" ++
    "x3w0Gasys0F8zzw0G9q2s0Fast80G5eis0Fcyl80G6hes0Fc8nw0G6udg0Fbvp80G6udg0Fvonw0G4olg0F5rbw0Eb0w" ++
    "wnjE|<-03>3"),
  ("Antarctica/Rothera",
    "0,-10800|3lxs00Bvwm8zjB|<-03>3"),
  ("Antarctica/Syowa",
    "0,10800|-6qsqo0B169crnjB|<+03>-3"),
  ("Antarctica/Troll",
    "0,7200d,0,0|ibruo0D27pg0Bb5uo0C7k800Bb5uo0C7k800Bb5uo0C7x6o0Basw00C7x6o0Basw00C7x6o0Bb5uo0C7" ++
    "k800Bb5uo0C7k800Bb5uo0C7x6o0Basw00C7x6o0Basw00C7x6o0Basw00C7x6o0Bb5uo0C7k800Bb5uo0C7k800Bb5u" ++
    "o0C7x6o0Basw00C7x6o0Basw00C7x6o0Bb5uo0C7k800Bb5uo0C7k800Bb5uo0C7x6o0Basw00C7x6o0Basw00C7x6o0" ++
    "Basw00C7x6o0Bb5uo0C7k800Bb5uo0C7k800Bb5uo0C7x6o0Basw00C7x6o0Basw00C7x6o0Bb5uo0C7k800Bb5uo0C7" ++
    "k800Bb5uo0C7k800Bb5uo0C7x6o0Basw00C7x6o0Basw00C4ffjjC|<+00>0<+02>-2,M3.5.0/1,M10.5.0/3"),
  ("Antarctica/Vostok",
    "0,25200,18000|-6aaao0Biushw0Ae23g0Bf79gs0C7cq9jjC|<+05>-5"),
  ("Australia/Adelaide",
    "33260,32400,37800d,34200,34200|-133j2zwB27qdzwE97zyu0C49pc0Dcxfk00C4h400D9d1c0C9d1c0D9q000C9" ++
    "02o0Deeio00C64dc0Dclpc0C6hc00Dc8qo0C6hc00Dc8qo0C6hc00Dc8qo0C6uao0Dc8qo0C6hc00Dc8qo0C6hc00Dc8" ++
    "qo0C6hc00Dc8qo0C6hc00Dc8qo0C6hc00Dc8qo0C6uao0Dc8qo0C6hc00Dc8qo0C6hc00Dc8qo0C6hc00Dc8qo0C779c" ++
    "0Db5uo0C7k800Dbitc0C7k800Dbitc0C779c0Dbitc0C779c0Dbitc0C6hc00Dc8qo0C7k800Db5uo0C6uao0Dc8qo0C" ++
    "779c0Dbitc0C7k800Db5uo0C7x6o0Dasw00C7x6o0Dasw00C7x6o0Dasw00C7x6o0Db5uo0C7k800Db5uo0C7k800Db5" ++
    "uo0C7x6o0Dasw00C7x6o0Dasw00C7x6o0Db5uo0C7k800Db5uo0C7x6o0Dasw00C7k800Db5uo0C8a5c0D9d1c0C9d1c" ++
    "0D9d1c0C9d1c0D9d1c0C9d1c0D9d1c0C9d1c0D9q000C9d1c0D9d1c0C9d1c0D9d1c0C9d1c0D9d1c0C9d1c0D9d1c0C" ++
    "9d1c0D9d1c0C9d1c0D9q000C9d1c0D9d1c0C9d1c0D9d1c0C9d1c0D9d1c0C9d1c0D9d1c0C9d1c0D9d1c0C9q000D9d" ++
    "1c0C9d1c0D9d1c0C9d1c0D9d1c0C9d1c0D9d1c0C9d1c0D9d1c0C9d1c0D9q000C9d1c0D9d1c0C9d1c0D9d1c0C9d1c" ++
    "0D9d1c0C9d1c0D9d1c0C9d1c0D9d1c0C9d1c0D9q000C9d1c0D9d1c0C9d1c0D9d1c0C|ACST-9:30ACDT,M10.1.0,M" ++
    "4.1.0/3"),
  ("Australia/Brisbane",
    "36728,39600d,36000,36000|-1354kc8Dbhbss8B49pc0Ccxfk00B4h400C9d1c0B9d1c0C9q000B902o0Ceeio00B6" ++
    "4dc0C97zuo0B6hc00Cc8qo0B6hc00Cc8qo0B6hc00C|AEST-10"),
  ("Australia/Broken_Hill",
    "33948,36000,32400,37800d,34200,34200|-133j3j0Bt9nr0C1egqs0F97zyu0D49pc0Ecxfk00D4h400E9d1c0D9" ++
    "d1c0E9q000D902o0Eeeio00D64dc0Eclpc0D6hc00Ec8qo0D6hc00Ec8qo0D6hc00Ec8qo0D6uao0Ec8qo0D6hc00Ec8" ++
    "qo0D6hc00Ec8qo0D6hc00Ec8qo0D6hc00Ec8qo0D6hc00Ec8qo0D8a5c0Easw00D6hc00Ec8qo0D6hc00Ec8qo0D6hc0" ++
    "0Ec8qo0D779c0Eb5uo0D7k800Ebitc0D7k800Ebitc0D779c0Ebitc0D6hc00Ec8qo0D6hc00Ec8qo0D6hc00Ec8qo0D" ++
    "6uao0Ec8qo0D6hc00Ec8qo0D6hc00Ec8qo0D7x6o0Easw00D7x6o0Easw00D7x6o0Easw00D7x6o0Eb5uo0D7k800Eb5" ++
    "uo0D7k800Eb5uo0D7x6o0Easw00D7x6o0Easw00D7x6o0Eb5uo0D7k800Eb5uo0D7x6o0Easw00D7k800Eb5uo0D8a5c" ++
    "0E9d1c0D9d1c0E9d1c0D9d1c0E9d1c0D9d1c0E9d1c0D9d1c0E9q000D9d1c0E9d1c0D9d1c0E9d1c0D9d1c0E9d1c0D" ++
    "9d1c0E9d1c0D9d1c0E9d1c0D9d1c0E9q000D9d1c0E9d1c0D9d1c0E9d1c0D9d1c0E9d1c0D9d1c0E9d1c0D9d1c0E9d" ++
    "1c0D9q000E9d1c0D9d1c0E9d1c0D9d1c0E9d1c0D9d1c0E9d1c0D9d1c0E9d1c0D9d1c0E9q000D9d1c0E9d1c0D9d1c" ++
    "0E9d1c0D9d1c0E9d1c0D9d1c0E9d1c0D9d1c0E9d1c0D9d1c0E9q000D9d1c0E9d1c0D9d1c0E9d1c0D|ACST-9:30AC" ++
    "DT,M10.1.0,M4.1.0/3"),
  ("Australia/Darwin",
    "31400,32400,37800d,34200,34200|-133j1k8B27qck8E97zyu0C49pc0Dcxfk00C4h400D9d1c0C9d1c0D9q000C9" ++
    "02o0D|ACST-9:30"),
  ("Australia/Eucla",
    "30928,35100d,31500,31500|-12nxx74Db05944B49pc0Ccxfk00B4h400C9d1c0B9d1c0Cgheyo0B6hc00C4ir9c0B" ++
    "6hc00C40r400B5eg00C7p9hc0B5reo0Cb5uo0B7x6o0Casw00B7x6o0Cf1bt2jC|<+0845>-8:45"),
  ("Australia/Hobart",
    "35356,39600d,36000,36000|-12smja4Db03ee4B902o0Cb5uo0B6hc00Cc8qo0B6hc00Cbx2ao0B4h400C9d1c0B9d" ++
    "1c0C9q000B902o0Cc9tk00B9d1c0Casw00B6uao0Cbvs00B6uao0Cbvs00B779c0Cbvs00B64dc0Cclpc0B6hc00Cc8q" ++
    "o0B6hc00Cc8qo0B6hc00Cc8qo0B6uao0Cc8qo0B6hc00Cc8qo0B6hc00Cc8qo0B6hc00Cc8qo0B6hc00Cc8qo0B6hc00" ++
    "Cc8qo0B7x6o0Cb5uo0B7k800Cb5uo0B6hc00Cc8qo0B6hc00Cc8qo0B6hc00Cbvs00B7k800Cbitc0B7k800Cbitc0B7" ++
    "79c0Cbitc0B779c0Cbitc0B7x6o0C9q000B902o0C9q000B902o0C9q000B902o0C9q000B902o0C9q000B9d1c0C9q0" ++
    "00B902o0C9q000B902o0C9q000B902o0C9q000B902o0C7x6o0Basw00Ca2yo0B902o0C9q000B902o0C9q000B902o0" ++
    "C9q000B902o0C9q000B9d1c0C9d1c0B902o0Ca2yo0B9d1c0C9d1c0B9d1c0C9d1c0B9d1c0C9d1c0B9d1c0C9d1c0B9" ++
    "d1c0C9q000B9d1c0C9d1c0B9d1c0C9d1c0B9d1c0C9d1c0B9d1c0C9d1c0B9d1c0C9d1c0B9d1c0C9q000B9d1c0C9d1" ++
    "c0B9d1c0C9d1c0B9d1c0C9d1c0B9d1c0C9d1c0B9d1c0C9d1c0B9q000C9d1c0B9d1c0C9d1c0B9d1c0C9d1c0B9d1c0" ++
    "C9d1c0B9d1c0C9d1c0B9d1c0C9q000B9d1c0C9d1c0B9d1c0C9d1c0B9d1c0C9d1c0B9d1c0C9d1c0B9d1c0C9d1c0B9" ++
    "d1c0C9q000B9d1c0C9d1c0B9d1c0C9d1c0B|AEST-10AEDT,M10.1.0,M4.1.0/3"),
  ("Australia/Lindeman",
    "35756,39600d,36000,36000|-1354jl8Dbhbs18B49pc0Ccxfk00B4h400C9d1c0B9d1c0C9q000B902o0Ceeio00B6" ++
    "4dc0C97zuo0B6hc00Cc8qo0B6hc00Cc8qo0B6hc00Cc8qo0B6uao0Cc8qo0B6hc00C|AEST-10"),
  ("Australia/Lord_Howe",
    "38180,36000,41400d,37800,39600d|-133j6skB18x8f0kDc8uu0C6u7w0Dc8tg0C6h980Dc8tg0C6h980Dc8tg0C6" ++
    "h980Dc8tg0E777y0Db5w20E7k6m0Dbiuq0E7k6m0Dbiuq0E777y0Dbiuq0E6ham0Dc8s20E6ham0Dc8s20E6ham0Dc8s" ++
    "20E6u9a0Dc8s20E6ham0Dc8s20E6ham0Dc8s20E7x5a0Dasxe0E7x5a0Dasxe0E7x5a0Dasxe0E7x5a0Db5w20E7k6m0" ++
    "D7x820Easum0Db5w20E7x5a0Dasxe0E7x5a0Dasxe0E7x5a0Db5w20E7k6m0Db5w20E7x5a0Dasxe0E7k6m0Db5w20E8" ++
    "a3y0D9d2q0E9czy0D9d2q0E9czy0D9d2q0E9czy0D9d2q0E9czy0D9q1e0E9czy0D9d2q0E9czy0D9d2q0E9czy0D9d2" ++
    "q0E9czy0D9d2q0E9czy0D9d2q0E9czy0D9q1e0E9czy0D9d2q0E9czy0D9d2q0E9czy0D9d2q0E9czy0D9d2q0E9czy0" ++
    "D9d2q0E9pym0D9d2q0E9czy0D9d2q0E9czy0D9d2q0E9czy0D9d2q0E9czy0D9d2q0E9czy0D9q1e0E9czy0D9d2q0E9" ++
    "czy0D9d2q0E9czy0D9d2q0E9czy0D9d2q0E9czy0D9d2q0E9czy0D9q1e0E9czy0D9d2q0E9czy0D9d2q0E5j1xjE|<+" ++
    "1030>-10:30<+11>-11,M10.1.0,M4.1.0"),
  ("Australia/Melbourne",
    "34792,39600d,36000,36000|-133j46gDbfqcmgB49pc0Ccxfk00B4h400C9d1c0B9d1c0C9q000B902o0Ceeio00B6" ++
    "4dc0Cclpc0B6hc00Cc8qo0B6hc00Cc8qo0B6hc00Cc8qo0B6uao0Cc8qo0B6hc00Cc8qo0B6hc00Cc8qo0B6hc00Cc8q" ++
    "o0B6hc00Cc8qo0B6hc00Cc8qo0B6uao0Cc8qo0B6hc00Cc8qo0B6hc00Cc8qo0B6hc00Cc8qo0B779c0Cb5uo0B7k800" ++
    "Cb5uo0B7x6o0Cbitc0B779c0Cbitc0B779c0Cbitc0B6hc00Cc8qo0B6hc00Cc8qo0B6uao0Cc8qo0B6hc00Cc8qo0B7" ++
    "k800Cb5uo0B7x6o0Casw00B7x6o0Casw00B7x6o0Casw00B7x6o0Cb5uo0B7k800C7x6o0Basw00Cb5uo0B7x6o0Casw" ++
    "00B7x6o0Casw00B7x6o0Cb5uo0B7k800Cb5uo0B7x6o0Casw00B7k800Cb5uo0B8a5c0C9d1c0B9d1c0C9d1c0B9d1c0" ++
    "C9d1c0B9d1c0C9d1c0B9d1c0C9q000B9d1c0C9d1c0B9d1c0C9d1c0B9d1c0C9d1c0B9d1c0C9d1c0B9d1c0C9d1c0B9" ++
    "d1c0C9q000B9d1c0C9d1c0B9d1c0C9d1c0B9d1c0C9d1c0B9d1c0C9d1c0B9d1c0C9d1c0B9q000C9d1c0B9d1c0C9d1" ++
    "c0B9d1c0C9d1c0B9d1c0C9d1c0B9d1c0C9d1c0B9d1c0C9q000B9d1c0C9d1c0B9d1c0C9d1c0B9d1c0C9d1c0B9d1c0" ++
    "C9d1c0B9d1c0C9d1c0B9d1c0C9q000B9d1c0C9d1c0B9d1c0C9d1c0B|AEST-10AEDT,M10.1.0,M4.1.0/3"),
  ("Australia/Perth",
    "27804,32400d,28800,28800|-12nxuscDb058scB49pc0Ccxfk00B4h400C9d1c0B9d1c0Cgheyo0B6hc00C4ir9c0B" ++
    "6hc00C40r400B5eg00C7p9hc0B5reo0Cb5uo0B7x6o0Casw00B7x6o0C|AWST-8"),
  ("Australia/Sydney",
    "36292,39600d,36000,36000|-133j5c4Dbfqds4B49pc0Ccxfk00B4h400C9d1c0B9d1c0C9q000B902o0Ceeio00B6" ++
    "4dc0Cclpc0B6hc00Cc8qo0B6hc00Cc8qo0B6hc00Cc8qo0B6uao0Cc8qo0B6hc00Cc8qo0B6hc00Cc8qo0B6hc00Cc8q" ++
    "o0B6hc00Cc8qo0B6hc00Cc8qo0B8a5c0Casw00B6hc00Cc8qo0B6hc00Cc8qo0B6hc00Cc8qo0B779c0Cb5uo0B7k800" ++
    "Cbitc0B7k800Cbitc0B779c0Cbitc0B6hc00Cc8qo0B6hc00Cc8qo0B6hc00Cc8qo0B6uao0Cc8qo0B6hc00Cc8qo0B6" ++
    "hc00Cc8qo0B7x6o0Casw00B7x6o0Casw00B7x6o0Casw00B7x6o0Cb5uo0B7k800C7x6o0Basw00Cb5uo0B7x6o0Casw" ++
    "00B7x6o0Casw00B7x6o0Cb5uo0B7k800Cb5uo0B7x6o0Casw00B7k800Cb5uo0B8a5c0C9d1c0B9d1c0C9d1c0B9d1c0" ++
    "C9d1c0B9d1c0C9d1c0B9d1c0C9q000B9d1c0C9d1c0B9d1c0C9d1c0B9d1c0C9d1c0B9d1c0C9d1c0B9d1c0C9d1c0B9" ++
    "d1c0C9q000B9d1c0C9d1c0B9d1c0C9d1c0B9d1c0C9d1c0B9d1c0C9d1c0B9d1c0C9d1c0B9q000C9d1c0B9d1c0C9d1" ++
    "c0B9d1c0C9d1c0B9d1c0C9d1c0B9d1c0C9d1c0B9d1c0C9q000B9d1c0C9d1c0B9d1c0C9d1c0B9d1c0C9d1c0B9d1c0" ++
    "C9d1c0B9d1c0C9d1c0B9d1c0C9q000B9d1c0C9d1c0B9d1c0C9d1c0B|AEST-10AEDT,M10.1.0,M4.1.0/3"),
  ("Pacific/Apia",
    "45184,-41216,-41400,-36000d,-39600,46800,50400d|-14fxxj4B9nfeo0Ckcrmt4Evp3la0D9odo0E902o0D4z" ++
    "bk0G4qog0F9d1c0G9q000F902o0G9q000F902o0G9q000F902o0G9q000F902o0G9q000F902o0G9q000F9d1c0G9q00" ++
    "0F902o0G9q000F902o0G9q000F8rka3jF|<+13>-13"),
  ("Pacific/Auckland",
    "41944,45000d,41400,43200d,46800d,43200,43200|-1gsoz14Cusn9z4B64ak0Cbiw40D7x5a0Casxe0D7x5a0Ca" ++
    "sxe0D7x5a0Casxe0D8a3y0Cafyq0D8a3y0Cafyq0Dafvy0C7x820Dasum0C7x820Dasum0C7x820Dasum0C7x820Dasu" ++
    "m0C7x820Db5ta0C7k9e0Db5ta0C7x820D2qrd20Gf1tpk0E5reo0Fclpc0E6uao0Fc8qo0E6hc00Fc8qo0E6hc00Fc8q" ++
    "o0E6hc00Fc8qo0E6hc00Fc8qo0E6hc00Fc8qo0E6uao0Fc8qo0E6hc00Fc8qo0E6hc00Fc8qo0E6hc00Fc8qo0E6hc00" ++
    "Fc8qo0E6hc00Fc8qo0E6uao0Fc8qo0E6hc00Fb5uo0E8a5c0Fafxc0E8a5c0Fafxc0E8a5c0Fafxc0E8n400Fa2yo0E8" ++
    "n400Fa2yo0E8n400Fa2yo0E8n400Fafxc0E8a5c0Fafxc0E8a5c0Fafxc0E8n400Fa2yo0E8n400Fa2yo0E8n400Fafx" ++
    "c0E8a5c0Fafxc0E8a5c0Fafxc0E8n400Fa2yo0E8n400Fa2yo0E8n400Fa2yo0E8n400Fa2yo0E9q000F902o0E9q000" ++
    "F902o0E9q000F902o0E9q000F902o0E9q000F9d1c0E9q000F902o0E9q000F902o0E9q000F902o0E9q000F902o0E9" ++
    "q000F902o0E9q000F9d1c0E9q000F902o0E9q000F902o0E9q000F902o0E9q000F902o0E9q000F902o0Ea2yo0F902" ++
    "o0E9q000F902o0E9q000F902o0E9q000F902o0E9q000F902o0E9q000F9d1c0E9q000F902o0E9q000F902o0E9q000" ++
    "F902o0E9q000F902o0E9q000F902o0E9q000F9d1c0E9q000F902o0E9q000F902o0E|NZST-12NZDT,M9.5.0,M4.1." ++
    "0/3"),
  ("Pacific/Bougainville",
    "37336,35312,36000,32400,39600|-1ayyvh4B7tuc88Cosc24wD1n05g0C1071c40Ec1b0jjE|<+11>-11"),
  ("Pacific/Chatham",
    "44028,44100,49500d,45900,45900|-1gsp0n0B149qqm0Ef1tq90C5reo0Dclpc0C6uao0Dc8qo0C6hc00Dc8qo0C6" ++
    "hc00Dc8qo0C6hc00Dc8qo0C6hc00Dc8qo0C6hc00Dc8qo0C6uao0Dc8qo0C6hc00Dc8qo0C6hc00Dc8qo0C6hc00Dc8q" ++
    "o0C6hc00Dc8qo0C6hc00Dc8qo0C6uao0Dc8qo0C6hc00Db5uo0C8a5c0Dafxc0C8a5c0Dafxc0C8a5c0Dafxc0C8n400" ++
    "Da2yo0C8n400Da2yo0C8n400Da2yo0C8n400Dafxc0C8a5c0Dafxc0C8a5c0Dafxc0C8n400Da2yo0C8n400Da2yo0C8" ++
    "n400Dafxc0C8a5c0Dafxc0C8a5c0Dafxc0C8n400Da2yo0C8n400Da2yo0C8n400Da2yo0C8n400Da2yo0C9q000D902" ++
    "o0C9q000D902o0C9q000D902o0C9q000D902o0C9q000D9d1c0C9q000D902o0C9q000D902o0C9q000D902o0C9q000" ++
    "D902o0C9q000D902o0C9q000D9d1c0C9q000D902o0C9q000D902o0C9q000D902o0C9q000D902o0C9q000D902o0Ca" ++
    "2yo0D902o0C9q000D902o0C9q000D902o0C9q000D902o0C9q000D902o0C9q000D9d1c0C9q000D902o0C9q000D902" ++
    "o0C9q000D902o0C9q000D902o0C9q000D902o0C9q000D9d1c0C9q000D902o0C9q000D902o0C5w4rjC|<+1245>-12" ++
    ":45<+1345>,M9.5.0/2:45,M4.1.0/3:45"),
  ("Pacific/Chuuk",
    "-49972,36428,36000,32400,36000|-1t8j2rwBt83xc0C76a5nwD29hes0Cbkenw0D29fk40C1c9ddzjC|<+10>-10"),
  ("Pacific/Easter",
    "-26248,-26248,-21600d,-25200,-25200,-21600,-18000d|-15r0p2wBm9leo0EivmeuwC7k580Dc8tg0C6h980D" ++
    "a31g0C7x3w0Dasys0C7x3w0Db5xg0C7k580Dag040C8a2k0Db5xg0C7k580Db5xg0C7x3w0Dasys0C7x3w0Dasys0C7x" ++
    "3w0Db5xg0C7k580Db5xg0C7k580Db5xg0C7x3w0Dasys0C7x3w0Fasys0G7x3w0Fasys0G7x3w0Fb5xg0G7k580Fb5xg" ++
    "0G7k580Fb5xg0G9cyk0F9d440G7x3w0Fasys0G7x3w0Fb5xg0G7k580F9q2s0G8zzw0Fb5xg0G7x3w0Fasys0G7x3w0F" ++
    "asys0G7x3w0Fasys0G7x3w0Fb5xg0G7k580Fb5xg0G8n180Fa31g0G7x3w0Fa31g0G9px80F9q2s0G7x3w0Fb5xg0G7k" ++
    "580Fb5xg0G7k580Fb5xg0G7k580Fb5xg0G7x3w0Fasys0G7x3w0Fasys0G7x3w0Fb5xg0G7k580Fb5xg0G8n180Fa31g" ++
    "0G7x3w0Fasys0G8zzw0F9q2s0Gast80F5eis0Gcyl80F6hes0Gc8nw0F6udg0Gbvp80F6udg0Gvonw0F4olg0Ge1h80F" ++
    "4olg0Ge1h80F4olg0Gc8nw0F7x9g0Gast80F7x9g0Gast80F7x9g0Gast80F8a840Gafuk0F7x9g0Gb5rw0F7x9g0Gas" ++
    "t80F7x9g0Gast80F7x9g0Gast80F7x9g0Gast80F7x9g0Gb5rw0F7kas0Gb5rw0F7x9g0Gast80F7x9g0Gast80F7x9g" ++
    "0Gast80F7x9g0Gast80F7x9g0Gb5rw0F7kas0Gb5rw0F7x9g0Gast80F7x9g0G6xxvjG|<-06>6<-05>,M9.1.6/22,M" ++
    "4.1.6/22"),
  ("Pacific/Efate",
    "40396,43200d,39600,43200d,39600|-u964i4Ewbu364B51hc0C4y8qs0D9cyk0E9d440D9cyk0E9q2s0D8zzw0E9q" ++
    "2s0D9cyk0E9d440D9cyk0E9d440D9cyk0E9d440D9cyk0E9d440D9cyk0E9q2s0D64ak0Ee1ms0D4ofw0Enh8ybjE|<+" ++
    "11>-11"),
  ("Pacific/Fakaofo",
    "-41096,-39600,46800|-100dhmgB1lxe1igCdljh3jC|<+13>-13"),
  ("Pacific/Fiji",
    "42944,46800d,43200|-sa2x4wC17bs00wB64dc0Ccyo00B5reo0C53a5c0B64dc0Casw00B6uao0Cbvs00B4oio0Ce1" ++
    "k00B4oio0Ceeio0B4bh80Cerk40B3ylc0Cerhc0B3ylc0Cf4g00B3lmo0Cf4g00B3lmo0Cf4g00B3lmo0Cfheo0B38o0" ++
    "0Chn6o0B1fuo0C8vivfjC|<+12>-12"),
  ("Pacific/Funafuti",
    "43012,43200|-100faisB1zizbibB|<+12>-12"),
  ("Pacific/Galapagos",
    "-21504,-18000,-18000d,-21600|-kcr62oBspdryoD3lsas0C3jp80Dnglf3jD|<-06>6"),
  ("Pacific/Gambier",
    "-32388,-32400|-tvndocB1te7envB|<-09>9"),
  ("Pacific/Guadalcanal",
    "38388,39600|-tvowacB1te8x9vB|<+11>-11"),
  ("Pacific/Guam",
    "-51660,34740,36000,32400,39600d,36000|-1t8j1h0Bt83xc0Cld6pp0D1dl9g0C7s1k40Etxp80C3frms0Eqdrp" ++
    "oC7kgacE3ljw0Cc8tg0E6u7w0Cbvus0E6u7w0C16uo40E3ljw0C16aas0E4ivxoCcls2cE6h980Cc65zw0F|ChST-10"),
  ("Pacific/Honolulu",
    "-37886,-37800,-34200d,-34200d,-34200d,-36000|-12lnw3mBjgnatmC13l00B4jvb00D1tyvu0E2e5e0Bvotg0" ++
    "F|HST10"),
  ("Pacific/Kanton",
    "0,-43200,-39600,46800|-gvk800Blypqo0C7yiqk0DmgvrrjD|<+13>-13"),
  ("Pacific/Kiritimati",
    "-37760,-38400,-36000,50400|-100dk74B153iz5sC7yirhcDmgvujjD|<+14>-14"),
  ("Pacific/Kosrae",
    "-47284,39116,39600,32400,36000,43200,39600|-1t8j4ukBt83xc0C76a4ykD29hhk0C9cmd40E27sas0D29fk4" ++
    "0Ccm2540Ff9l3w0Ckdq4zjC|<+11>-11"),
  ("Pacific/Kwajalein",
    "40160,39600,36000,32400,-43200,43200|-100f8bkBise0fkC27sas0D1hjus0Bddxug0Ecgv6k0Fn6g2bjF|<+1" ++
    "2>-12"),
  ("Pacific/Majuro",
    "41088,39600,32400,36000,43200|-100f91cB76a6hcC29hhk0B9cmd40D27sas0C1h6w40Bdeat40Eznb8vjE|<+1" ++
    "2>-12"),
  ("Pacific/Marquesas",
    "-33480,-34200|-tvncu0B1te7dtjB|<-0930>9:30"),
  ("Pacific/Midway",
    "-42568,-39600,-36000d,-39600|-100dghkBsx94dkC4ofw0D|SST11"),
  ("Pacific/Nauru",
    "40060,41400,32400,43200|-pjxiwsBba66ysC1kwca0Bhfzda0DurfndjD|<+12>-12"),
  ("Pacific/Niue",
    "-40780,-40800,-39600|-8zbv78B63yiokC12dxdi7C|<-11>11"),
  ("Pacific/Norfolk",
    "40312,40320,41400,45000d,41400,39600,43200d|-100f8fsBq3einsCcfj8q0D6hc00El6nk00F239aq0G9d1c0" ++
    "F9d1c0G9d1c0F9d1c0G9d1c0F9d1c0G9d1c0F9d1c0G9q000F9d1c0G9d1c0F9d1c0G9d1c0F9d1c0G9d1c0F9d1c0G9" ++
    "d1c0F9d1c0G9d1c0F9q000G9d1c0F9d1c0G9d1c0F9d1c0G9d1c0F9d1c0G9d1c0F9d1c0G9d1c0F9d1c0G9d1c0F9q0" ++
    "00G9d1c0F9d1c0G9d1c0F9d1c0G5j3bjG|<+11>-11<+12>,M10.1.0,M4.1.0/3"),
  ("Pacific/Noumea",
    "39948,43200d,39600,43200d,39600|-u9645oCye0ixoB4dbw0Cecqs0B4f6k0C99p700D4oio0Elc6nbjE|<+11>-" ++
    "11"),
  ("Pacific/Pago_Pago",
    "45432,-40968,-39600|-14fxxq0B9nfeo0C|SST11"),
  ("Pacific/Palau",
    "-54124,32276,32400|-1t8izkkBt83xc0C1ziz383C|<+09>-9"),
  ("Pacific/Pitcairn",
    "-31220,-30600,-28800|-100dp8sB1esg26sCkqho1jC|<-08>8"),
  ("Pacific/Pohnpei",
    "-48428,37972,39600,32400,36000,39600|-1t8j3ysBt83xc0C76a42sD29hhk0C9cmd40E27sas0D29fk40C1c9d" ++
    "dzjC|<+11>-11"),
  ("Pacific/Port_Moresby",
    "35320,35312,36000|-1ayytx4B7tuao8C22nok8fC|<+10>-10"),
  ("Pacific/Rarotonga",
    "48056,-38344,-37800,-36000,-34200d|-10jifqwBrk6io0Cdlv68wE5rbw0Dc8s20E6ham0Dc8s20E6ham0Dc8s2" ++
    "0E6u9a0Dc8s20E6ham0Dc8s20E6ham0Dc8s20E6ham0Dc8s20E6ham0Dc8s20E6ham0Dc8s20E6u9a0Dc8s20E6ham0D" ++
    "c8s20E6ham0Dc8s20E6ham0DogumljD|<-10>10"),
  ("Pacific/Saipan",
    "-51420,34980,32400,39600d,36000,36000|-1t8j1noBt83xc0Cmpn8noE7t6as0Dtxp80E3frms0DqdrpoE7kgac" ++
    "D3ljw0Ec8tg0D6u7w0Ebvus0D6u7w0E16uo40D3ljw0E16aas0D4ivxoEcls2cD6h980Ec65zw0F|ChST-10"),
  ("Pacific/Tahiti",
    "-35896,-36000|-tvnaywB1te7byfB|<-10>10"),
  ("Pacific/Tarawa",
    "41524,43200|-100f9dgB1zizaczB|<+12>-12"),
  ("Pacific/Tongatapu",
    "44352,44400,46800,50400d,46800,50400d|-corjk0B7znjyoCk8amdcD8fpc0Ebvs00F4bh80Ceelg0F4bh80C7p" ++
    "mis0F3lmo0Cays7jjC|<+13>-13"),
  ("Pacific/Wake",
    "39988,43200|-100f86sB1ziz96bB|<+12>-12"),
  ("Pacific/Wallis",
    "44120,43200|-100fbdkB1zizcd3B|<+12>-12")]

end MessageTemplate.Zone
